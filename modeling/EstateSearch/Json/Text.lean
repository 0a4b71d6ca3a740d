/-!
# JSON string literals

`encode` writes the characters of a text between the quotes of a literal, and `take?` reads a
literal up to its closing quote. A literal is read into units first, since an escape may be one half
of a surrogate pair; joining the units to characters fails where a half stands alone.
-/

set_option autoImplicit false

namespace EstateSearch.Json

def hexDigit (n : Nat) : Char :=
  if n < 10 then Char.ofNat ('0'.toNat + n) else Char.ofNat ('a'.toNat + (n - 10))

/-- The characters that stand for one character in a literal. Only what must be escaped is. -/
def encodeChar (c : Char) : List Char :=
  if c = '"' then ['\\', '"']
  else if c = '\\' then ['\\', '\\']
  else if c = '\x08' then ['\\', 'b']
  else if c = '\x0C' then ['\\', 'f']
  else if c = '\n' then ['\\', 'n']
  else if c = '\r' then ['\\', 'r']
  else if c = '\t' then ['\\', 't']
  else if c.toNat < 0x20 then
    ['\\', 'u', '0', '0', hexDigit (c.toNat / 16), hexDigit (c.toNat % 16)]
  else [c]

def encode (text : List Char) : List Char := text.flatMap encodeChar

def quoted (text : String) : List Char := '"' :: encode text.toList ++ ['"']

/-- A unit of a literal: a character as it is, or an escaped code of 16 bits. -/
inductive TextUnit where
  | plain (c : Char)
  | code (n : Nat)
  deriving DecidableEq, Repr

def hexValue? (c : Char) : Option Nat :=
  if '0' ≤ c && c ≤ '9' then some (c.toNat - '0'.toNat)
  else if 'a' ≤ c && c ≤ 'f' then some (c.toNat - 'a'.toNat + 10)
  else if 'A' ≤ c && c ≤ 'F' then some (c.toNat - 'A'.toNat + 10)
  else none

def hexCode? (a b c d : Char) : Option Nat := do
  let a ← hexValue? a
  let b ← hexValue? b
  let c ← hexValue? c
  let d ← hexValue? d
  return ((a * 16 + b) * 16 + c) * 16 + d

def shortEscape? : Char → Option Char
  | '"' => some '"'
  | '\\' => some '\\'
  | '/' => some '/'
  | 'b' => some '\x08'
  | 'f' => some '\x0C'
  | 'n' => some '\n'
  | 'r' => some '\r'
  | 't' => some '\t'
  | _ => none

/-- Reads the units of a literal up to its closing quote. Control characters must be escaped. -/
def takeUnits? : List Char → Option (List TextUnit × List Char)
  | [] => none
  | '"' :: rest => some ([], rest)
  | '\\' :: 'u' :: a :: b :: c :: d :: rest => do
    let n ← hexCode? a b c d
    let (units, after) ← takeUnits? rest
    return (.code n :: units, after)
  | '\\' :: e :: rest => do
    let c ← shortEscape? e
    let (units, after) ← takeUnits? rest
    return (.plain c :: units, after)
  | c :: rest =>
    if c = '\\' || c.toNat < 0x20 then none
    else do
      let (units, after) ← takeUnits? rest
      return (.plain c :: units, after)

def isHighHalf (n : Nat) : Bool := 0xD800 ≤ n && n ≤ 0xDBFF

def isLowHalf (n : Nat) : Bool := 0xDC00 ≤ n && n ≤ 0xDFFF

/-- The text of a list of units; none if half of a surrogate pair stands alone. -/
def joinUnits? : List TextUnit → Option (List Char)
  | [] => some []
  | .plain c :: rest => (joinUnits? rest).map (c :: ·)
  | .code high :: .code low :: rest =>
    if isHighHalf high then
      if isLowHalf low then
        (joinUnits? rest).map (Char.ofNat (0x10000 + (high - 0xD800) * 0x400 + (low - 0xDC00)) :: ·)
      else none
    else if isLowHalf high then none
    else (joinUnits? (.code low :: rest)).map (Char.ofNat high :: ·)
  | .code n :: rest =>
    if isHighHalf n || isLowHalf n then none
    else (joinUnits? rest).map (Char.ofNat n :: ·)

/-- Reads a literal after its opening quote: the text that it stands for, if it stands for one, and
what follows the closing quote. -/
def takeText? (cs : List Char) : Option (Option String × List Char) :=
  (takeUnits? cs).map fun (units, rest) => ((joinUnits? units).map String.ofList, rest)

end EstateSearch.Json
