import EstateSearch.Decimal.Digits
import EstateSearch.Yaml.Scalar
import EstateSearch.Yaml.Token

/-!
# Reading YAML marks

Anchors, aliases, tags and directives: the marks that stand before nodes and documents. A tag may
write bytes by their numbers, so it is a text of bytes; a byte 0 ends it.
-/

set_option autoImplicit false

namespace EstateSearch.Yaml

open Source

/-- May the character stand in the name of an anchor, a tag handle or a directive? -/
def isNameChar (c : Char) : Bool := c.isAlphanum || c == '_' || c == '-'

def takeName (source : Source) : List Char × Source :=
  (source.takeWhile (fun p => isNameChar p.char) |>.map (·.char),
    source.dropWhile fun p => isNameChar p.char)

/-- May the character follow a name of an anchor directly? -/
def endsAnchor (c : Char) : Bool :=
  isBlank c || isBreak c || ['?', ':', ',', ']', '}', '%', '@', '\x60'].contains c

/-- Reads the name of an anchor or an alias, after its sign. -/
def takeAnchor? (source : Source) : Option (List Char × Source) :=
  let (name, rest) := takeName source
  if !name.isEmpty && (peek 1 rest).all endsAnchor then some (name, rest) else none

/-! ### Tags -/

/-- May the character stand in a tag? Some may only between angle brackets. -/
def isTagChar (bracketed : Bool) (c : Char) : Bool :=
  isNameChar c || ";/?:@&=+$.%!~*'()".toList.contains c ||
    (bracketed && (c == ',' || c == '[' || c == ']'))

/-- Reads one byte that is written as a percent sign and two hexadecimal digits. -/
def takeByte? : Source → Option (Nat × Source)
  | p :: rest => if p.char == '%' then takeHex? 2 0 rest else none
  | [] => none

def takeLaterBytes? : Nat → Source → Option (List Nat × Source)
  | 0, source => some ([], source)
  | count + 1, source => do
    let (byte, rest) ← takeByte? source
    if byte / 64 = 2 then
      let (bytes, after) ← takeLaterBytes? count rest
      return (byte :: bytes, after)
    else none

/-- Reads the bytes of a character. Their number must suit the first, but no more is asked of
them. -/
def takeBytes? (source : Source) : Option (List Nat × Source) := do
  let (byte, rest) ← takeByte? source
  let (bytes, after) ←
    if byte < 0x80 then some ([], rest)
    else if byte / 32 = 6 then takeLaterBytes? 1 rest
    else if byte / 16 = 14 then takeLaterBytes? 2 rest
    else if byte / 8 = 30 then takeLaterBytes? 3 rest
    else none
  return (byte :: bytes, after)

def takeTagText? (bracketed : Bool) : Nat → Source → Option (List Nat × Source)
  | 0, source => some ([], source)
  | _, [] => some ([], [])
  | bound + 1, p :: rest =>
    if isTagChar bracketed p.char then do
      let (bytes, rest) ←
        if p.char == '%' then takeBytes? (p :: rest) else some ([p.char.toNat], rest)
      let (text, after) ← takeTagText? bracketed bound rest
      return (bytes ++ text, after)
    else some ([], p :: rest)

def untilZero (bytes : List Nat) : List Nat := bytes.takeWhile (· ≠ 0)

def takeHandle (source : Source) : List Char × Bool × Source :=
  let (name, rest) := takeName source
  match rest with
  | p :: after => if p.char == '!' then (name, true, after) else (name, false, rest)
  | [] => (name, false, [])

/-- Reads a tag after its exclamation mark, without regard to what follows it. -/
def takeTagParts? (source : Source) : Option (List Char × List Nat × Source) :=
  match source with
  | p :: rest =>
    if p.char == '<' then do
      let (text, after) ← takeTagText? true rest.length rest
      match after with
      | q :: after =>
        if q.char == '>' && !text.isEmpty then some ([], untilZero text, after) else none
      | [] => none
    else
      match takeHandle source with
      | (name, true, after) => do
        let (text, after) ← takeTagText? false after.length after
        if text.isEmpty then none else some ('!' :: name ++ ['!'], untilZero text, after)
      | (name, false, after) => do
        let (text, after) ← takeTagText? false after.length after
        let suffix := untilZero (name.map Char.toNat ++ text)
        if suffix.isEmpty then some ([], ['!'.toNat], after) else some (['!'], suffix, after)
  | [] => some ([], ['!'.toNat], [])

/-- Reads a tag after its exclamation mark. A gap must follow it, or in a flow collection a
comma. -/
def takeTag? (inFlow : Bool) (source : Source) : Option (Token × Source) := do
  let (handle, suffix, rest) ← takeTagParts? source
  if rest.atGap || (inFlow && rest.peek 1 == [',']) then some (.tag handle suffix, rest) else none

/-! ### Directives -/

def takeVersionNumber? (source : Source) : Option (Nat × Source) :=
  let (ds, _) := Decimal.takeDigits (source.map (·.char))
  if ds.isEmpty || 9 < ds.length then none else some (Decimal.valueOf ds, source.drop ds.length)

def takeVersion? (source : Source) : Option (Token × Source) := do
  let (major, rest) ← takeVersionNumber? source.skipBlanks
  match rest with
  | p :: rest =>
    if p.char == '.' then
      let (minor, rest) ← takeVersionNumber? rest
      return (.version major minor, rest)
    else none
  | [] => none

def takeTagDirective? (source : Source) : Option (Token × Source) :=
  match source.skipBlanks with
  | p :: rest =>
    if p.char == '!' then do
      let (name, closed, rest) := takeHandle rest
      if !closed && !name.isEmpty then none
      else if !(peek 1 rest).any isBlank then none
      else
        let rest := skipBlanks rest
        let (stem, rest) ← takeTagText? true rest.length rest
        if stem.isEmpty || !atGap rest then none
        else
          let handle := '!' :: name ++ if closed then ['!'] else []
          return (.tagDirective handle (untilZero stem), rest)
    else none
  | [] => none

/-- Reads a directive after its percent sign. Only two directives exist. -/
def takeDirective? (source : Source) : Option (Token × Source) := do
  let (name, rest) := takeName source
  if !rest.atGap then none
  else
    let (token, rest) ←
      match String.ofList name with
      | "YAML" => takeVersion? rest
      | "TAG" => takeTagDirective? rest
      | _ => none
    let rest ← rest.finishLine?
    return (token, rest)

end EstateSearch.Yaml
