import EstateSearch.Text.Casing.Table
import EstateSearch.Text.Ranges

/-!
# Lowercase

Full lowercase of a text. Three rules, in this order:

* a capital sigma becomes the final sigma where it ends a word and the ordinary one elsewhere;
* the dotted capital I becomes `i` followed by a combining dot, the only case where the text grows;
* every other character is mapped on its own by the rows of `EstateSearch.Text.Casing`.

`search/src/query/parser` and `search/src/predicate/eval` compare texts in this form.
-/

set_option autoImplicit false

namespace EstateSearch.Text

def isCased (c : Char) : Bool :=
  inRanges Casing.cased c.toNat

def isCaseIgnorable (c : Char) : Bool :=
  inRanges Casing.caseIgnorable c.toNat

def Casing.lowerBy (rows : List Casing.Row) (c : Char) : Char :=
  match rows.find? (·.holds c.toNat) with
  | some row => Char.ofNat (row.lower c.toNat)
  | none => c

/-- The lowercase of one character that hangs on nothing but the character. -/
def lowerChar (c : Char) : Char :=
  Casing.lowerBy (Casing.rows ++ Casing.laterRows) c

/-- Is the first character that is not case-ignorable a cased one? -/
def meetsCased (text : List Char) : Bool :=
  match text.dropWhile isCaseIgnorable with
  | c :: _ => isCased c
  | [] => false

/-- A sigma ends its word if going back one meets a cased letter, and going on one meets none.
`before` is the text before it, nearest character first. -/
def endsWord (before after : List Char) : Bool :=
  meetsCased before && !meetsCased after

/-- The lowercase of `c` between `before` (nearest character first) and `after`. -/
def lowerBetween (before : List Char) (c : Char) (after : List Char) : List Char :=
  if c = 'Σ' then [if endsWord before after then 'ς' else 'σ']
  else if c = 'İ' then ['i', '\u0307']
  else [lowerChar c]

/-- The lowercase of a text that follows `before` (nearest character first). -/
def lowercaseAfter : List Char → List Char → List Char
  | _, [] => []
  | before, c :: after => lowerBetween before c after ++ lowercaseAfter (c :: before) after

def lowercase (text : List Char) : List Char :=
  lowercaseAfter [] text

def lower (text : String) : String :=
  String.ofList (lowercase text.toList)

end EstateSearch.Text
