/-!
# Ranges of code points

Sets of code points as lists of inclusive ranges, and the operations on sets in that form. The
operations give the ranges in order, with a gap between any two.
-/

set_option autoImplicit false

namespace EstateSearch.Text

def inRanges (ranges : List (Nat × Nat)) (n : Nat) : Bool :=
  ranges.any fun range => range.1 ≤ n && n ≤ range.2

namespace Ranges

def lastPoint : Nat := 0x10FFFF

/-- Puts a range before others that start no earlier, as one with all of those that it reaches. -/
def absorb (range : Nat × Nat) : List (Nat × Nat) → List (Nat × Nat)
  | [] => [range]
  | next :: others =>
    if next.1 ≤ range.2 + 1 then absorb (range.1, max range.2 next.2) others
    else range :: next :: others

/-- Brings ranges in order and joins those without a gap between them. -/
def normalize (ranges : List (Nat × Nat)) : List (Nat × Nat) :=
  (ranges.mergeSort fun a b => a.1 ≤ b.1).foldr absorb []

def union (a b : List (Nat × Nat)) : List (Nat × Nat) := normalize (a ++ b)

/-- The gaps before, between and after ordered ranges, from code point `next` on. -/
def gapsFrom (next : Nat) : List (Nat × Nat) → List (Nat × Nat)
  | [] => if next ≤ lastPoint then [(next, lastPoint)] else []
  | range :: others =>
    if next < range.1 then (next, range.1 - 1) :: gapsFrom (range.2 + 1) others
    else gapsFrom (range.2 + 1) others

def complement (a : List (Nat × Nat)) : List (Nat × Nat) := gapsFrom 0 a

def intersection (a b : List (Nat × Nat)) : List (Nat × Nat) :=
  complement (union (complement a) (complement b))

def difference (a b : List (Nat × Nat)) : List (Nat × Nat) :=
  complement (union (complement a) b)

def count (a : List (Nat × Nat)) : Nat := a.foldl (fun n range => n + (range.2 + 1 - range.1)) 0

def points (a : List (Nat × Nat)) : List Nat :=
  a.flatMap fun range => (List.range (range.2 + 1 - range.1)).map (range.1 + ·)

end Ranges

end EstateSearch.Text
