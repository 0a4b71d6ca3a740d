import EstateSearch.Decimal.Digits
import EstateSearch.Text.Blank

/-!
# Named sets of code points

How the tables of scripts and properties are written down: a set has its names, and its members are
given by the lengths of the runs outside and inside of it, in turn.
-/

set_option autoImplicit false

namespace EstateSearch.Text

/-- A set of code points with its names in lowercase without separators. `runs` holds numbers: how
many code points lie before the next member, then how many members follow in a row, and so on. -/
structure NamedSet where
  names : List String
  runs : List String
  deriving Repr

namespace NamedSet

def rangesFrom (first : Nat) : List Nat → List (Nat × Nat)
  | gap :: size :: rest =>
    (first + gap, first + gap + size - 1) :: rangesFrom (first + gap + size) rest
  | _ => []

def ranges (set : NamedSet) : List (Nat × Nat) :=
  let numbers := (words (String.join set.runs).toList).map fun word =>
    Decimal.valueOf (Decimal.takeDigits word).1
  rangesFrom 0 numbers

def find? (table : List NamedSet) (name : String) : Option NamedSet :=
  table.find? fun set => set.names.contains name

end NamedSet

end EstateSearch.Text
