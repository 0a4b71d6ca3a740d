import EstateSearch.Binary64
import EstateSearch.Instant.Basic

/-!
# Structured search criteria

What a search asks for besides its text. An unset criterion asks for nothing, except that without a
word about activity only active records are searched.

Source: `search/src/criteria`.
-/

set_option autoImplicit false

namespace EstateSearch

structure PropertyCriteria where
  organizationId : Option Int64
  assignedUserId : Option Int64
  teamId : Option Int64
  status : Option String
  kind : Option String
  city : Option String
  country : Option String
  priceMin : Option Binary64
  priceMax : Option Binary64
  surfaceMin : Option Binary64
  surfaceMax : Option Binary64
  bedrooms : Option Int64
  bathrooms : Option Int64
  active : Option Bool
  createdAfter : Option Instant
  createdBefore : Option Instant
  deriving DecidableEq, Repr

/-- The criteria that ask for nothing. -/
def PropertyCriteria.blank : PropertyCriteria :=
  ⟨none, none, none, none, none, none, none, none, none, none, none, none, none, none, none, none⟩

structure UserCriteria where
  organizationId : Option Int64
  role : Option String
  active : Option Bool
  deriving DecidableEq, Repr

def UserCriteria.blank : UserCriteria := ⟨none, none, none⟩

end EstateSearch
