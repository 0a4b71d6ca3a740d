import EstateSearch.Pattern.CharSet

/-!
# Sets of characters as ranges

The members of a set as ordered ranges of code points, for everything that hangs on the set as a
whole and not on one character. Surrogates are no characters, so no range holds them.
-/

set_option autoImplicit false

namespace EstateSearch.Pattern

open Text

/-- The ranges of the runs whose category is among some; a run ends where the next one starts. -/
def categoryRanges (members : List Category) : List Category.Run → List (Nat × Nat)
  | [] => []
  | [run] => if members.contains run.category then [(run.first, Ranges.lastPoint)] else []
  | run :: next :: others =>
    let rest := categoryRanges members (next :: others)
    if members.contains run.category then (run.first, next.first - 1) :: rest else rest

/-- The code points of all letters with case variants; some come more than once. -/
def foldablePoints : List Nat :=
  let capitals := Casing.rows.flatMap fun row =>
    (List.range ((row.last - row.first) / row.stride + 1)).map fun i => row.first + i * row.stride
  let lows := Casing.rows.flatMap fun row =>
    (List.range ((row.last - row.first) / row.stride + 1)).map fun i => row.target + i * row.stride
  capitals ++ lows ++ otherForms.flatMap fun form => [form.1, form.2]

/-- A set of at most so many code points is folded one by one. -/
def smallCount : Nat := 128

/-- The case variants of the code points in ordered ranges, and the code points themselves. -/
def foldedRanges (variants : Char → List Char) (ranges : List (Nat × Nat)) : List (Nat × Nat) :=
  let points :=
    if Ranges.count ranges ≤ smallCount then Ranges.points ranges
    else foldablePoints.filter (inRanges ranges)
  Ranges.union ranges
    (points.flatMap fun n => (variants (Char.ofNat n)).map fun c => (c.toNat, c.toNat))

/-- The members of a set, with surrogates left in or out at will. -/
def CharSet.looseRanges : CharSet → List (Nat × Nat)
  | nothing => []
  | range low high => if low ≤ high then [(low, high)] else []
  | categories members => Ranges.normalize (categoryRanges members Category.runs.toList)
  | blank =>
    [(0x09, 0x0D), (0x20, 0x20), (0x85, 0x85), (0xA0, 0xA0), (0x1680, 0x1680), (0x2000, 0x200A),
      (0x2028, 0x2029), (0x202F, 0x202F), (0x205F, 0x205F), (0x3000, 0x3000)]
  | ranges members => Ranges.normalize members
  | union a b => Ranges.union a.looseRanges b.looseRanges
  | intersection a b => Ranges.intersection a.looseRanges b.looseRanges
  | difference a b => Ranges.difference a.looseRanges b.looseRanges
  | complement a => Ranges.complement a.looseRanges
  | folded a => foldedRanges caseVariants a.looseRanges
  | foldedAscii a => foldedRanges asciiVariants a.looseRanges

def CharSet.toRanges (set : CharSet) : List (Nat × Nat) :=
  Ranges.difference set.looseRanges [(0xD800, 0xDFFF)]

end EstateSearch.Pattern
