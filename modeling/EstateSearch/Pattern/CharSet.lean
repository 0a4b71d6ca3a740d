import EstateSearch.Text.Blank
import EstateSearch.Text.CaseFold
import EstateSearch.Text.Category

/-!
# Sets of characters

The sets that a pattern can name, as expressions, and membership in them.
-/

set_option autoImplicit false

namespace EstateSearch.Pattern

open Text

inductive CharSet where
  | nothing
  /-- the code points from `low` to `high` -/
  | range (low high : Nat)
  /-- the characters of some general categories -/
  | categories (members : List Category)
  /-- the characters with the property `White_Space` -/
  | blank
  /-- code points in a list of inclusive ranges -/
  | ranges (members : List (Nat × Nat))
  | union (a b : CharSet)
  | intersection (a b : CharSet)
  | difference (a b : CharSet)
  | complement (a : CharSet)
  /-- all case variants of the members -/
  | folded (a : CharSet)
  /-- all ASCII case variants of the members -/
  | foldedAscii (a : CharSet)
  deriving Repr

namespace CharSet

def holds : CharSet → Char → Bool
  | nothing, _ => false
  | range low high, c => low ≤ c.toNat && c.toNat ≤ high
  | categories members, c => members.contains (Category.of c)
  | blank, c => isBlank c
  | ranges members, c => inRanges members c.toNat
  | union a b, c => a.holds c || b.holds c
  | intersection a b, c => a.holds c && b.holds c
  | difference a b, c => a.holds c && !b.holds c
  | complement a, c => !a.holds c
  | folded a, c => (caseVariants c).any a.holds
  | foldedAscii a, c => (asciiVariants c).any a.holds

def single (c : Char) : CharSet := range c.toNat c.toNat

def everything : CharSet := complement nothing

def unionOf (sets : List CharSet) : CharSet := sets.foldr union nothing

def symmetricDifference (a b : CharSet) : CharSet := union (difference a b) (difference b a)

def between (low high : Char) : CharSet := range low.toNat high.toNat

/-- The letters, marks, digits and joiners that words are made of. -/
def word : CharSet :=
  union
    (categories [.Lu, .Ll, .Lt, .Lm, .Lo, .Nl, .Mn, .Mc, .Me, .Nd, .Pc])
    (ranges [(0x200C, 0x200D), (0x24B6, 0x24E9), (0x1F130, 0x1F149), (0x1F150, 0x1F169),
      (0x1F170, 0x1F189)])

def digit : CharSet := categories [.Nd]

/-- The ASCII letters, digits and the underscore. -/
def asciiWord : CharSet :=
  unionOf [between '0' '9', between 'A' 'Z', between 'a' 'z', single '_']

def asciiBlank : CharSet := union (range 9 13) (single ' ')

end CharSet

end EstateSearch.Pattern
