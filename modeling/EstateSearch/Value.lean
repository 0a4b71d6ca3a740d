import EstateSearch.Binary64
import EstateSearch.Decimal.Notation
import EstateSearch.Instant.Basic
import EstateSearch.Instant.Printer

/-!
# Field values

What a record holds in a field, or what a condition compares a field with. Integers compare with
integers exactly and with numbers as the nearest number; a missing value equals nothing and has no
order.

Source: `search/src/predicate/types`.
-/

set_option autoImplicit false

namespace EstateSearch

/-- The value of a field. -/
inductive Value where
  | text (content : String)
  | integer (content : Int64)
  | number (content : Binary64)
  | boolean (content : Bool)
  | instant (content : Instant)
  | missing
  deriving DecidableEq, Repr

namespace Value

/-- The order of texts: by the code points of the first place where they differ, and a proper
beginning comes first. -/
def orderText : List Char → List Char → Ordering
  | [], [] => .eq
  | [], _ :: _ => .lt
  | _ :: _, [] => .gt
  | a :: as, b :: bs => (compare a.toNat b.toNat).then (orderText as bs)

/-- The value as a number, if it is one; an integer is rounded to the nearest. -/
def asNumber? : Value → Option Binary64
  | integer i => some (Binary64.ofInt i.toInt)
  | number x => some x
  | _ => none

/-- Numerical order of two values, if both are integers or numbers. -/
def orderNumbers? (a b : Value) : Option Ordering :=
  match a.asNumber?, b.asNumber? with
  | some x, some y => x.compare? y
  | _, _ => none

/-- Equality as a condition understands it. -/
def equals : Value → Value → Bool
  | missing, _ => false
  | _, missing => false
  | integer a, integer b => a == b
  | text a, text b => a == b
  | boolean a, boolean b => a == b
  | instant a, instant b => a == b
  | a, b => a.orderNumbers? b == some .eq

/-- Order as a condition understands it; none if the two cannot be compared. -/
def order? : Value → Value → Option Ordering
  | integer a, integer b => some (compare a.toInt b.toInt)
  | text a, text b => some (orderText a.toList b.toList)
  | instant a, instant b => some (a.order b)
  | a, b => a.orderNumbers? b

/-- Are the two written with the same kind of value and equal contents? A value that is no number
is not even like itself, and the two zeros are alike. -/
def isLike : Value → Value → Bool
  | text a, text b => a == b
  | integer a, integer b => a == b
  | number a, number b => a.sameNumber b
  | boolean a, boolean b => a == b
  | instant a, instant b => a == b
  | missing, missing => true
  | _, _ => false

/-- Numbers in messages and listings never have an exponent, and whole ones no point; a half goes
up. -/
def numberLayout : Decimal.Layout := ⟨.upward, none, false⟩

def numberText (x : Binary64) : String :=
  if x.isNaN then "NaN"
  else if x.isFinite then String.ofList (numberLayout.numeral x).text
  else if x.isNegative then "-inf" else "inf"

def booleanText (b : Bool) : String := if b then "true" else "false"

/-- The text of a value in listings; a text stands between quotes as it is. -/
def display : Value → String
  | text s => "\"" ++ s ++ "\""
  | integer i => Decimal.intText i.toInt
  | number x => numberText x
  | boolean b => booleanText b
  | instant t => t.text
  | missing => "null"

def ofOption {α : Type} (make : α → Value) : Option α → Value
  | some a => make a
  | none => missing

end Value

end EstateSearch
