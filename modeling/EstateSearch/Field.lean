/-!
# Fields

The fields that a search condition can look at, and the database columns behind them.

Source: `search/src/predicate/types`.
-/

set_option autoImplicit false

namespace EstateSearch

/-- A searchable field of a property or of a user. The first eight hold free text. -/
inductive Field where
  | title
  | description
  | address
  | city
  | reference
  | firstName
  | lastName
  | email
  | organizationId
  | assignedUserId
  | teamId
  | status
  | kind
  | country
  | price
  | surface
  | bedrooms
  | bathrooms
  | active
  | createdAt
  | role
  deriving DecidableEq, Repr

namespace Field

def column : Field → String
  | title => "title"
  | description => "description"
  | address => "address"
  | city => "city"
  | reference => "reference"
  | firstName => "first_name"
  | lastName => "last_name"
  | email => "email"
  | organizationId => "organization_id"
  | assignedUserId => "assigned_user_id"
  | teamId => "team_id"
  | status => "status"
  | kind => "property_type"
  | country => "country"
  | price => "price"
  | surface => "surface"
  | bedrooms => "bedrooms"
  | bathrooms => "bathrooms"
  | active => "active"
  | createdAt => "created_at"
  | role => "role"

def all : List Field :=
  [title, description, address, city, reference, firstName, lastName, email, organizationId,
    assignedUserId, teamId, status, kind, country, price, surface, bedrooms, bathrooms, active,
    createdAt, role]

def ofColumn? (name : String) : Option Field :=
  all.find? fun field => field.column == name

end Field

end EstateSearch
