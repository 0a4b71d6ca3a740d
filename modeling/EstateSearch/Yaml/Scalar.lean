import EstateSearch.Decimal.Digits
import EstateSearch.Yaml.Source

/-!
# Reading YAML scalars

The three kinds of scalars: plain ones, quoted ones and blocks of lines. In the first two a single
line break inside stands for a space, and of several the first stands for nothing. Where a `take`
function is none, the scalar breaks a rule.
-/

set_option autoImplicit false

namespace EstateSearch.Yaml

open Source

/-- What line breaks stand for, given in order. -/
def foldBreaks : List Char → List Char
  | ['\n'] => [' ']
  | '\n' :: others => others
  | breaks => breaks

/-- Reads spaces, tabs and line breaks, and tells what they stand for and whether there was a line
break. `spaces` and `breaks` hold what has been read, the latest first. With `escaped` set, a line
break that stands for nothing came before. Tabs at the start of a line are refused left of column
`indent`. -/
def takeGap? (escaped : Bool) (indent : Nat) :
    (spaces breaks : List Char) → Source → Option (List Char × Bool × Source)
  | spaces, breaks, [] => some (gapText spaces breaks, escaped || !breaks.isEmpty, [])
  | spaces, breaks, p :: rest =>
    if isBreak p.char then takeGap? escaped indent [] (p.char :: breaks) rest
    else if isBlank p.char then
      if escaped || !breaks.isEmpty then
        if p.char == '\t' && p.column < indent then none
        else takeGap? escaped indent spaces breaks rest
      else takeGap? escaped indent (p.char :: spaces) breaks rest
    else some (gapText spaces breaks, escaped || !breaks.isEmpty, p :: rest)
where
  /-- What the gap stands for. -/
  gapText (spaces breaks : List Char) : List Char :=
    if escaped then breaks.reverse
    else if breaks.isEmpty then spaces.reverse
    else foldBreaks breaks.reverse

/-! ### Plain scalars -/

def isFlowSign (c : Char) : Bool := c == ',' || c == '[' || c == ']' || c == '{' || c == '}'

/-- Reads the part of a plain scalar up to the next gap or sign. In a flow collection a colon right
before a sign is refused. -/
def takePlainPart? (inFlow : Bool) : Source → Option (List Char × Source)
  | [] => some ([], [])
  | p :: rest =>
    if isBlank p.char || isBreak p.char then some ([], p :: rest)
    else if p.char == ':' && inFlow && (peek 1 rest).any (fun c => isFlowSign c || c == '?') then none
    else if p.char == ':' && atGap rest then some ([], p :: rest)
    else if inFlow && isFlowSign p.char then some ([], p :: rest)
    else do
      let (text, after) ← takePlainPart? inFlow rest
      return (p.char :: text, after)

/-- Reads a plain scalar, of which `text` has been read and `gap` is what the gap after it stands
for. Outside of flow collections it ends left of column `indent`. The result tells whether the last
gap had a line break in it. -/
def takePlain? (inFlow : Bool) (indent : Nat) :
    Nat → (text gap : List Char) → (broken : Bool) → Source → Option (List Char × Bool × Source)
  | 0, _, _, _, _ => none
  | bound + 1, text, gap, broken, source =>
    if source.atDocumentMark || source.peek 1 == ['#'] then some (text, broken, source)
    else do
      let (part, rest) ← takePlainPart? inFlow source
      if part.isEmpty then some (text, broken, source)
      else
        let text := text ++ gap ++ part
        if rest.isEmpty || !rest.atGap then some (text, false, rest)
        else
          let (gap, broken, after) ← takeGap? false indent [] [] rest
          if !inFlow && after.column < indent then some (text, broken, after)
          else takePlain? inFlow indent bound text gap broken after

/-! ### Quoted scalars -/

def hexValue? (c : Char) : Option Nat :=
  if '0' ≤ c && c ≤ '9' then some (c.toNat - '0'.toNat)
  else if 'a' ≤ c && c ≤ 'f' then some (c.toNat - 'a'.toNat + 10)
  else if 'A' ≤ c && c ≤ 'F' then some (c.toNat - 'A'.toNat + 10)
  else none

def takeHex? : Nat → (value : Nat) → Source → Option (Nat × Source)
  | 0, value, source => some (value, source)
  | _, _, [] => none
  | count + 1, value, p :: rest => do
    let d ← hexValue? p.char
    takeHex? count (value * 16 + d) rest

def shortEscape? : Char → Option Char
  | '0' => some '\x00'
  | 'a' => some '\x07'
  | 'b' => some '\x08'
  | 't' => some '\t'
  | '\t' => some '\t'
  | 'n' => some '\n'
  | 'v' => some '\x0B'
  | 'f' => some '\x0C'
  | 'r' => some '\r'
  | 'e' => some '\x1B'
  | ' ' => some ' '
  | '"' => some '"'
  | '/' => some '/'
  | '\\' => some '\\'
  | 'N' => some '\u0085'
  | '_' => some '\u00a0'
  | 'L' => some '\u2028'
  | 'P' => some '\u2029'
  | _ => none

def escapeDigits? : Char → Option Nat
  | 'x' => some 2
  | 'u' => some 4
  | 'U' => some 8
  | _ => none

def takeEscape? : Source → Option (Char × Source)
  | [] => none
  | p :: rest =>
    match escapeDigits? p.char with
    | some count => do
      let (n, after) ← takeHex? count 0 rest
      if n < 0xD800 || (0xDFFF < n && n < 0x110000) then some (Char.ofNat n, after) else none
    | none => (shortEscape? p.char).map fun c => (c, rest)

/-- Reads the part of a quoted scalar up to the next gap or the closing quote, and tells whether the
part ended in an escaped line break. -/
def takeQuotedPart? (quote : Char) : Nat → Source → Option (List Char × Bool × Source)
  | 0, _ => none
  | _, [] => some ([], false, [])
  | bound + 1, p :: rest =>
    let next (c : Char) (rest : Source) : Option (List Char × Bool × Source) := do
      let (text, escaped, after) ← takeQuotedPart? quote bound rest
      return (c :: text, escaped, after)
    if isBlank p.char || isBreak p.char then some ([], false, p :: rest)
    else if quote == '\'' && p.char == '\'' && peek 1 rest == ['\''] then next '\'' (rest.drop 1)
    else if p.char == quote then some ([], false, p :: rest)
    else if quote == '"' && p.char == '\\' then
      match rest with
      | [] => none
      | q :: after =>
        if isBreak q.char then some ([], true, after)
        else do
          let (c, after) ← takeEscape? (q :: after)
          next c after
    else next p.char rest

def takeQuoted? (quote : Char) : Nat → Source → Option (List Char × Source)
  | 0, _ => none
  | bound + 1, source =>
    if source.atDocumentMark then none
    else do
      let (part, escaped, rest) ← takeQuotedPart? quote (source.length + 1) source
      match rest with
      | [] => none
      | p :: after =>
        if p.char == quote then some (part, after)
        else
          let (gap, _, after) ← takeGap? escaped 0 [] [] rest
          let (text, after) ← takeQuoted? quote bound after
          return (part ++ gap ++ text, after)

/-! ### Blocks of lines -/

/-- What becomes of the line breaks at the end of a block. -/
inductive Chomping where
  /-- all go -/
  | strip
  /-- one stays -/
  | clip
  /-- all stay -/
  | keep
  deriving DecidableEq, Repr

def chomping? : Char → Option Chomping
  | '+' => some .keep
  | '-' => some .strip
  | _ => none

def takeChomping : Source → Chomping × Source
  | [] => (.clip, [])
  | p :: rest =>
    match chomping? p.char with
    | some chomping => (chomping, rest)
    | none => (.clip, p :: rest)

/-- Reads a digit for the indentation, if there is one; it is 0 where there is none. -/
def takeIncrement? : Source → Option (Nat × Source)
  | [] => some (0, [])
  | p :: rest =>
    match Decimal.digit? p.char with
    | some d => if d.val = 0 then none else some (d.val, rest)
    | none => some (0, p :: rest)

/-- Reads the signs after the sign of a block, in either order. -/
def takeBlockSigns? (source : Source) : Option (Chomping × Nat × Source) := do
  let (increment, rest) ← takeIncrement? source
  let (chomping, rest) := takeChomping rest
  if increment = 0 then
    let (increment, rest) ← takeIncrement? rest
    return (chomping, increment, rest)
  else return (chomping, increment, rest)

/-- Reads the indentation of a line and the empty lines before it, and tells the breaks of those. -/
def takeIndentation? (indent : Nat) : Source → Option (List Char × Source)
  | [] => some ([], [])
  | p :: rest =>
    if p.column < indent && p.char == ' ' then takeIndentation? indent rest
    else if p.column < indent && p.char == '\t' then none
    else if isBreak p.char then do
      let (breaks, after) ← takeIndentation? indent rest
      return (p.char :: breaks, after)
    else some ([], p :: rest)

/-- Reads spaces and empty lines up to the first line with something on it, and tells the breaks
and the widest indentation. -/
def measureIndentation? : (widest : Nat) → Source → Option (List Char × Nat × Source)
  | widest, [] => some ([], widest, [])
  | widest, p :: rest =>
    let widest := max widest p.column
    if p.char == ' ' then measureIndentation? widest rest
    else if p.char == '\t' then none
    else if isBreak p.char then do
      let (breaks, widest, after) ← measureIndentation? widest rest
      return (p.char :: breaks, widest, after)
    else some ([], widest, p :: rest)

def takeLine : Source → List Char × List Char × Source
  | [] => ([], [], [])
  | p :: rest =>
    if isBreak p.char then ([], [p.char], rest)
    else
      let (text, lineBreak, after) := takeLine rest
      (p.char :: text, lineBreak, after)

/-- Reads the lines of a block from column `indent` on. `lineBreak` is the break of the line before,
`breaks` are those of empty lines after it, and `spaced` tells whether that line began with a blank:
only breaks between lines that do not are folded. -/
def takeBlockLines? (folded : Bool) (chomping : Chomping) (indent : Nat) :
    Nat → (text lineBreak breaks : List Char) → (spaced : Bool) → Source →
    Option (List Char × Source)
  | 0, _, _, _, _, _ => none
  | bound + 1, text, lineBreak, breaks, spaced, source =>
    match source with
    | p :: _ =>
      if p.column = indent then do
        let nowSpaced := isBlank p.char
        let joint :=
          if folded && lineBreak == ['\n'] && !spaced && !nowSpaced then
            (if breaks.isEmpty then [' '] else breaks)
          else lineBreak ++ breaks
        let (line, lineBreak, rest) := takeLine source
        let (breaks, rest) ← takeIndentation? indent rest
        takeBlockLines? folded chomping indent bound (text ++ joint ++ line) lineBreak breaks
          nowSpaced rest
      else some (finish text lineBreak breaks, source)
    | [] => some (finish text lineBreak breaks, source)
where
  /-- The text with the line breaks at its end that stay. -/
  finish (text lineBreak breaks : List Char) : List Char :=
    match chomping with
    | .strip => text
    | .clip => text ++ lineBreak
    | .keep => text ++ lineBreak ++ breaks

/-- Reads a block after its sign, inside of a block that is indented by `parent` (-1 for none). -/
def takeBlock? (folded : Bool) (parent : Int) (source : Source) : Option (List Char × Source) := do
  let (chomping, increment, rest) ← takeBlockSigns? source
  let rest ← rest.finishLine?
  if increment = 0 then
    let (breaks, widest, after) ← measureIndentation? 0 rest
    let indent := max widest (max (parent + 1).toNat 1)
    takeBlockLines? folded chomping indent (after.length + 1) [] [] breaks false after
  else
    let indent := parent.toNat + increment
    let (breaks, after) ← takeIndentation? indent rest
    takeBlockLines? folded chomping indent (after.length + 1) [] [] breaks false after

end EstateSearch.Yaml
