import EstateSearch.Text.Category.Revision

/-!
# Quoted texts

Texts as they are shown in listings: between quotes, with quotes and backslashes escaped, and with
every character that would not be seen as such written by its code point.

`cli/src/commands` lists the parts of a query in this form.
-/

set_option autoImplicit false

namespace EstateSearch.Text

/-- A number in hexadecimal, with lowercase digits and without leading zeros. -/
def hexText (n : Nat) : List Char := Nat.toDigits 16 n

/-- Letters that are not seen: they only fill the place of a Korean letter. -/
def fillers : List Nat := [0x115F, 0x1160, 0x3164, 0xFFA0]

/-- The two halfwidth sound marks count as extending the character before them, and yet they take a
place of their own. -/
def soundMarks : List Nat := [0xFF9E, 0xFF9F]

def isCombining (c : Char) : Bool :=
  let category := Category.revised c
  category == .Mn || category == .Me ||
    (inRanges otherExtenders c.toNat && !soundMarks.contains c.toNat)

/-- Is the character shown as it is? Controls, formats, unassigned and private characters, fillers
and all separators but the space are not, and neither is what is combined with the character before
it. -/
def isShown (c : Char) : Bool :=
  match Category.revised c with
  | .Cc | .Cf | .Cs | .Co | .Cn | .Zl | .Zp => false
  | .Zs => c == ' '
  | _ => !isCombining c && !fillers.contains c.toNat

def quotedChar (c : Char) : List Char :=
  if c = '"' then ['\\', '"']
  else if c = '\\' then ['\\', '\\']
  else if c = '\n' then ['\\', 'n']
  else if c = '\r' then ['\\', 'r']
  else if c = '\t' then ['\\', 't']
  else if c = '\x00' then ['\\', '0']
  else if isShown c then [c]
  else ['\\', 'u', '{'] ++ hexText c.toNat ++ ['}']

def quoted (text : String) : String :=
  String.ofList ('"' :: text.toList.flatMap quotedChar ++ ['"'])

def quotedList (texts : List String) : String :=
  "[" ++ ", ".intercalate (texts.map quoted) ++ "]"

end EstateSearch.Text
