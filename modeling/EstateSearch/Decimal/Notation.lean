import EstateSearch.Decimal.Numeral
import EstateSearch.Decimal.Shortest

/-!
# Written forms of a binary64 number

Which digits are written is settled by the shortest decimal; how they are laid out is a `Layout`,
a record that each output format fixes for itself. The result is a numeral.

Listings, as in `search/src/predicate/types`, and JSON texts lay numbers out differently.
-/

set_option autoImplicit false

namespace EstateSearch.Decimal

/-- How a format lays the digits of a number out. -/
structure Layout where
  /-- which of two equally near shortest decimals is written -/
  tie : Tie
  /-- the positions of the leading digit that are written without exponent; none for all -/
  plain : Option (Int × Int)
  /-- is a number without fraction written with a point and a zero? -/
  pointZero : Bool
  deriving Repr

def dropTrailingZeros (ds : List Digit) : List Digit :=
  (ds.reverse.dropWhile fun d => d.val == 0).reverse

def Layout.emptyFraction (layout : Layout) : List Digit :=
  if layout.pointZero then [0] else []

/-- The numeral without exponent whose first significant digit stands in position `position`:
position 1 is the last one before the point. -/
def Layout.positional (layout : Layout) (negative : Bool) (ds : List Digit) (position : Int) :
    Numeral :=
  if position ≤ 0 then ⟨negative, [0], List.replicate (-position).toNat 0 ++ ds, none⟩
  else
    let count := position.toNat
    if ds.length ≤ count then
      ⟨negative, ds ++ List.replicate (count - ds.length) 0, layout.emptyFraction, none⟩
    else ⟨negative, ds.take count, ds.drop count, none⟩

/-- Does the format write a number with this position of the leading digit without exponent? -/
def Layout.isPlain (layout : Layout) (position : Int) : Bool :=
  match layout.plain with
  | none => true
  | some (first, last) => first ≤ position && position ≤ last

/-- The numeral of a finite number. The sign of a negative zero is written too. -/
def Layout.numeral (layout : Layout) (x : Binary64) : Numeral :=
  if x.magnitude = 0 then ⟨x.isNegative, [0], layout.emptyFraction, none⟩
  else
    let decimal := shortest layout.tie x
    let all := digits decimal.coefficient
    let position := (all.length : Int) + decimal.power
    let ds := dropTrailingZeros all
    if layout.isPlain position then layout.positional x.isNegative ds position
    else ⟨x.isNegative, ds.take 1, ds.drop 1, some (position - 1)⟩

end EstateSearch.Decimal
