import EstateSearch.Field
import EstateSearch.Value

/-!
# Searchable records

A condition looks at a record through its row: the value of every field, missing where the record
does not carry the field. Properties and users are the two kinds of records.

Source: `search/src/record`.
-/

set_option autoImplicit false

namespace EstateSearch

/-- The value of every field of one record. -/
abbrev Row := Field → Value

structure Property where
  id : Option Int64
  reference : Option String
  title : Option String
  description : Option String
  address : Option String
  city : Option String
  country : Option String
  organizationId : Option Int64
  assignedUserId : Option Int64
  teamId : Option Int64
  status : Option String
  kind : Option String
  price : Option Binary64
  surface : Option Binary64
  bedrooms : Option Int64
  bathrooms : Option Int64
  active : Bool
  createdAt : Option Instant
  deriving DecidableEq, Repr

namespace Property

/-- A property of which nothing is known; it counts as active. -/
def blank : Property :=
  ⟨none, none, none, none, none, none, none, none, none, none, none, none, none, none, none, none,
    true, none⟩

def row (p : Property) : Row
  | .title => .ofOption .text p.title
  | .description => .ofOption .text p.description
  | .address => .ofOption .text p.address
  | .city => .ofOption .text p.city
  | .reference => .ofOption .text p.reference
  | .organizationId => .ofOption .integer p.organizationId
  | .assignedUserId => .ofOption .integer p.assignedUserId
  | .teamId => .ofOption .integer p.teamId
  | .status => .ofOption .text p.status
  | .kind => .ofOption .text p.kind
  | .country => .ofOption .text p.country
  | .price => .ofOption .number p.price
  | .surface => .ofOption .number p.surface
  | .bedrooms => .ofOption .integer p.bedrooms
  | .bathrooms => .ofOption .integer p.bathrooms
  | .active => .boolean p.active
  | .createdAt => .ofOption .instant p.createdAt
  | .firstName | .lastName | .email | .role => .missing

end Property

/-- A user of the back office. -/
structure User where
  id : Option Int64
  organizationId : Option Int64
  firstName : Option String
  lastName : Option String
  email : Option String
  role : Option String
  active : Bool
  createdAt : Option Instant
  deriving DecidableEq, Repr

namespace User

/-- A user of whom nothing is known; the account counts as active. -/
def blank : User :=
  ⟨none, none, none, none, none, none, true, none⟩

def row (u : User) : Row
  | .firstName => .ofOption .text u.firstName
  | .lastName => .ofOption .text u.lastName
  | .email => .ofOption .text u.email
  | .role => .ofOption .text u.role
  | .organizationId => .ofOption .integer u.organizationId
  | .active => .boolean u.active
  | .createdAt => .ofOption .instant u.createdAt
  | _ => .missing

end User

end EstateSearch
