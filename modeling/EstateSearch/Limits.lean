import EstateSearch.Criteria
import EstateSearch.Problem

/-!
# Limits on input

Reading a query and making a condition never fail. These checks refuse input that could not be
meant: overlong queries, amounts and counts that no property has, and ranges without inside. The
first check that fails decides which problem is named.

Source: `search/src/validation`.
-/

set_option autoImplicit false

namespace EstateSearch.Limits

/-- Queries are limited in their number of code points. -/
def checkQuery (limit : Nat) (text : String) : Except Problem Unit :=
  if limit < text.length then .error (.queryTooLong text.length limit) else .ok ()

/-- An amount must be finite and not below zero. -/
def checkAmount (criterion : String) : Option Binary64 → Except Problem Unit
  | none => .ok ()
  | some x =>
    if !x.isFinite then .error (.notFinite criterion)
    else if x.rank < 0 then .error (.negative criterion)
    else .ok ()

/-- A count must not be below zero. -/
def checkCount (criterion : String) : Option Int64 → Except Problem Unit
  | none => .ok ()
  | some n => if n.toInt < 0 then .error (.negative criterion) else .ok ()

/-- A least number must not lie above the greatest. -/
def checkNumbers (least greatest : String) : Option Binary64 → Option Binary64 →
    Except Problem Unit
  | some low, some high =>
    if low.compare? high == some .gt then .error (.numbersReversed least greatest low high)
    else .ok ()
  | _, _ => .ok ()

/-- An earliest instant must not lie after the latest. -/
def checkInstants (earliest latest : String) : Option Instant → Option Instant →
    Except Problem Unit
  | some first, some last =>
    if first.order last == .gt then .error (.instantsReversed earliest latest first last)
    else .ok ()
  | _, _ => .ok ()

/-- All checks on criteria for properties. -/
def checkCriteria (c : PropertyCriteria) : Except Problem Unit := do
  checkAmount "priceMin" c.priceMin
  checkAmount "priceMax" c.priceMax
  checkAmount "surfaceMin" c.surfaceMin
  checkAmount "surfaceMax" c.surfaceMax
  checkCount "bedrooms" c.bedrooms
  checkCount "bathrooms" c.bathrooms
  checkNumbers "priceMin" "priceMax" c.priceMin c.priceMax
  checkNumbers "surfaceMin" "surfaceMax" c.surfaceMin c.surfaceMax
  checkInstants "createdAfter" "createdBefore" c.createdAfter c.createdBefore

end EstateSearch.Limits
