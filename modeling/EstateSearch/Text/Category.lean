import EstateSearch.Decimal.Digits
import EstateSearch.Text.Category.Table
import EstateSearch.Text.Ranges

/-!
# General categories

The general category of a character, found in the table of runs by halving. The table is that of
edition 16, by which patterns go; `Category.revised` has what edition 17 says.
-/

set_option autoImplicit false

namespace EstateSearch.Text

/-- The general categories by their two letters in the Unicode character database. -/
inductive Category where
  | Lu | Ll | Lt | Lm | Lo
  | Mn | Mc | Me
  | Nd | Nl | No
  | Pc | Pd | Ps | Pe | Pi | Pf | Po
  | Sm | Sc | Sk | So
  | Zs | Zl | Zp
  | Cc | Cf | Cs | Co | Cn
  deriving DecidableEq, Repr

namespace Category

def all : List Category :=
  [Lu, Ll, Lt, Lm, Lo, Mn, Mc, Me, Nd, Nl, No, Pc, Pd, Ps, Pe, Pi, Pf, Po, Sm, Sc, Sk, So,
    Zs, Zl, Zp, Cc, Cf, Cs, Co, Cn]

def letters : Category → Char × Char
  | Lu => ('L', 'u') | Ll => ('L', 'l') | Lt => ('L', 't') | Lm => ('L', 'm') | Lo => ('L', 'o')
  | Mn => ('M', 'n') | Mc => ('M', 'c') | Me => ('M', 'e')
  | Nd => ('N', 'd') | Nl => ('N', 'l') | No => ('N', 'o')
  | Pc => ('P', 'c') | Pd => ('P', 'd') | Ps => ('P', 's') | Pe => ('P', 'e') | Pi => ('P', 'i')
  | Pf => ('P', 'f') | Po => ('P', 'o')
  | Sm => ('S', 'm') | Sc => ('S', 'c') | Sk => ('S', 'k') | So => ('S', 'o')
  | Zs => ('Z', 's') | Zl => ('Z', 'l') | Zp => ('Z', 'p')
  | Cc => ('C', 'c') | Cf => ('C', 'f') | Cs => ('C', 's') | Co => ('C', 'o') | Cn => ('C', 'n')

def ofLetters? (a b : Char) : Option Category :=
  all.find? fun category => category.letters == (a, b)

def major (category : Category) : Char := category.letters.1

/-- A run of equal categories by its first code point. -/
structure Run where
  first : Nat
  category : Category
  deriving Repr

/-- Reads the runs that start at code point `first`; `bound` is at least the number of runs. -/
def readRuns : Nat → Nat → List Char → List Run
  | bound + 1, first, a :: b :: rest =>
    match ofLetters? a b with
    | none => []
    | some category =>
      let (count, rest) := Decimal.takeDigits rest
      let size := if count.isEmpty then 1 else Decimal.valueOf count
      ⟨first, category⟩ :: readRuns bound (first + size) rest
  | _, _, _ => []

def runs : Array Run :=
  let chars := (String.join runLines).toList
  (readRuns chars.length 0 chars).toArray

/-- The last run among those from `low` up to `low + count` that starts at the code point or before
it; `steps` halvings bring `count` down to one. -/
def findRun (n : Nat) : Nat → Nat → Nat → Option Run
  | 0, low, _ => runs[low]?
  | steps + 1, low, count =>
    if count ≤ 1 then runs[low]?
    else
      let half := count / 2
      match runs[low + half]? with
      | some run => if run.first ≤ n then findRun n steps (low + half) (count - half)
                    else findRun n steps low half
      | none => none

/-- The general category of a code point; beyond the last one all are unassigned. -/
def ofCodePoint (n : Nat) : Category :=
  match findRun n runs.size 0 runs.size with
  | some run => run.category
  | none => Cn

def of (c : Char) : Category := ofCodePoint c.toNat

end Category

/-- The code points that extend a grapheme although they are no nonspacing or enclosing marks. -/
def otherExtenders : List (Nat × Nat) :=
  [(0x9BE, 0x9BE), (0x9D7, 0x9D7), (0xB3E, 0xB3E), (0xB57, 0xB57), (0xBBE, 0xBBE), (0xBD7, 0xBD7),
    (0xCC0, 0xCC0), (0xCC2, 0xCC2), (0xCC7, 0xCC8), (0xCCA, 0xCCB), (0xCD5, 0xCD6),
    (0xD3E, 0xD3E), (0xD57, 0xD57), (0xDCF, 0xDCF), (0xDDF, 0xDDF), (0x1715, 0x1715),
    (0x1734, 0x1734), (0x1B35, 0x1B35), (0x1B3B, 0x1B3B), (0x1B3D, 0x1B3D), (0x1B43, 0x1B44),
    (0x1BAA, 0x1BAA), (0x1BF2, 0x1BF3), (0x200C, 0x200C), (0x302E, 0x302F), (0xA953, 0xA953),
    (0xA9C0, 0xA9C0), (0xFF9E, 0xFF9F), (0x111C0, 0x111C0), (0x11235, 0x11235),
    (0x1133E, 0x1133E), (0x1134D, 0x1134D), (0x11357, 0x11357), (0x113B8, 0x113B8),
    (0x113C2, 0x113C2), (0x113C5, 0x113C5), (0x113C7, 0x113C9), (0x113CF, 0x113CF),
    (0x114B0, 0x114B0), (0x114BD, 0x114BD), (0x115AF, 0x115AF), (0x116B6, 0x116B6),
    (0x11930, 0x11930), (0x1193D, 0x1193D), (0x11F41, 0x11F41), (0x16FF0, 0x16FF1),
    (0x1D165, 0x1D166), (0x1D16D, 0x1D172), (0xE0020, 0xE007F)]

end EstateSearch.Text
