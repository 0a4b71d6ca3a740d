/-!
# The text of a YAML stream

The characters of a stream with their places. All line breaks but the Unicode line and paragraph
separators become line feeds, and a carriage return with a line feed is one break. Lengths are
counted in bytes of UTF-8, columns in characters.

Source: the streams that `serde_yaml_ng` reads, for the settings of `search/src/config`.
-/

set_option autoImplicit false

namespace EstateSearch.Yaml

/-- A character of a stream with its place; everything is counted from 0. -/
structure Placed where
  char : Char
  /-- the number of bytes before it -/
  index : Nat
  line : Nat
  column : Nat
  deriving DecidableEq, Repr

/-- A stretch of a stream up to its end. -/
abbrev Source := List Placed

def isAllowed (c : Char) : Bool :=
  let n := c.toNat
  n == 0x09 || n == 0x0A || n == 0x0D || (0x20 ≤ n && n ≤ 0x7E) || n == 0x85 ||
    (0xA0 ≤ n && n ≤ 0xD7FF) || (0xE000 ≤ n && n ≤ 0xFFFD) || 0x10000 ≤ n

def isBreak (c : Char) : Bool :=
  c == '\n' || c == '\r' || c == '\u0085' || c == '\u2028' || c == '\u2029'

def isBlank (c : Char) : Bool := c == ' ' || c == '\t'

/-- Is this a byte order mark at the start of a line? There it counts as nothing but a column. -/
def Placed.isByteOrderMark (p : Placed) : Bool := p.char == '\ufeff' && p.column == 0

def normalBreak (c : Char) : Char :=
  if c == '\u2028' || c == '\u2029' then c else '\n'

/-- Gives the characters their places, from a given one on. -/
def place (index line column : Nat) : List Char → Source
  | [] => []
  | '\r' :: '\n' :: rest => ⟨'\n', index, line, column⟩ :: place (index + 2) (line + 1) 0 rest
  | c :: rest =>
    if isBreak c then
      ⟨normalBreak c, index, line, column⟩ :: place (index + c.utf8Size) (line + 1) 0 rest
    else ⟨c, index, line, column⟩ :: place (index + c.utf8Size) line (column + 1) rest

/-- The stream of a text; none if it holds a character that may not stand in a stream. -/
def Source.ofText? (text : List Char) : Option Source :=
  if text.all isAllowed then some (place 0 0 0 text) else none

namespace Source

def peek (count : Nat) (source : Source) : List Char := (source.take count).map (·.char)

/-- Is there a space, a tab, a line break or the end? -/
def atGap : Source → Bool
  | [] => true
  | p :: _ => isBlank p.char || isBreak p.char

/-- The column of the next character; the end counts as the start of a line. -/
def column : Source → Nat
  | [] => 0
  | p :: _ => p.column

/-- Does a line start here with one of the two marks for the bounds of documents? -/
def atDocumentMark (source : Source) : Bool :=
  source.column == 0 && (source.peek 3 == ['-', '-', '-'] || source.peek 3 == ['.', '.', '.']) &&
    atGap (source.drop 3)

def skipBlanks (source : Source) : Source := source.dropWhile fun p => isBlank p.char

/-- The source past the rest of the line, without its break. -/
def skipLine (source : Source) : Source := source.dropWhile fun p => !isBreak p.char

/-- The source past the rest of a line that holds at most blanks and a comment, and past its break;
none if there is more on the line. -/
def finishLine? (source : Source) : Option Source :=
  let rest := source.skipBlanks
  let rest := if rest.peek 1 == ['#'] then rest.skipLine else rest
  match rest with
  | [] => some []
  | p :: after => if isBreak p.char then some after else none

end Source

end EstateSearch.Yaml
