import EstateSearch.Json.Basic
import EstateSearch.Json.Text

/-!
# Reading JSON

A reader of JSON texts without extensions. Values may be nested to any depth; the recursive
functions count down a number that is at least the number of characters left.

It accepts what `serde_json` accepts.
-/

set_option autoImplicit false

namespace EstateSearch.Json

/-- Is it one of the four characters that may stand between the parts of a JSON text? -/
def isSpace (c : Char) : Bool := c == ' ' || c == '\n' || c == '\t' || c == '\r'

def skipSpace (cs : List Char) : List Char := cs.dropWhile isSpace

mutual

/-- Reads a value, with space before it. -/
def takeValue? : Nat → List Char → Option (Json × List Char)
  | 0, _ => none
  | bound + 1, cs =>
    match skipSpace cs with
    | [] => none
    | 'n' :: 'u' :: 'l' :: 'l' :: rest => some (.null, rest)
    | 't' :: 'r' :: 'u' :: 'e' :: rest => some (.boolean true, rest)
    | 'f' :: 'a' :: 'l' :: 's' :: 'e' :: rest => some (.boolean false, rest)
    | '"' :: rest => (takeText? rest).map fun (text, after) => (.string text, after)
    | '[' :: rest =>
      match skipSpace rest with
      | ']' :: after => some (.array [], after)
      | _ => (takeItems? bound rest).map fun (items, after) => (.array items, after)
    | '{' :: rest =>
      match skipSpace rest with
      | '}' :: after => some (.object [], after)
      | _ => (takeMembers? bound rest).map fun (members, after) => (.object members, after)
    | cs => (Decimal.Numeral.take? cs).map fun (numeral, after) => (.number numeral, after)

/-- Reads the items of an array up to its closing bracket; there is at least one. -/
def takeItems? : Nat → List Char → Option (List Json × List Char)
  | 0, _ => none
  | bound + 1, cs => do
    let (item, rest) ← takeValue? bound cs
    match skipSpace rest with
    | ']' :: after => some ([item], after)
    | ',' :: rest =>
      let (items, after) ← takeItems? bound rest
      return (item :: items, after)
    | _ => none

/-- Reads the members of an object up to its closing brace; there is at least one. -/
def takeMembers? : Nat → List Char → Option (List (Option String × Json) × List Char)
  | 0, _ => none
  | bound + 1, cs =>
    match skipSpace cs with
    | '"' :: rest => do
      let (key, rest) ← takeText? rest
      match skipSpace rest with
      | ':' :: rest =>
        let (value, rest) ← takeValue? bound rest
        match skipSpace rest with
        | '}' :: after => some ([(key, value)], after)
        | ',' :: rest =>
          let (members, after) ← takeMembers? bound rest
          return ((key, value) :: members, after)
        | _ => none
      | _ => none
    | _ => none

end

/-- The value that a text writes; nothing but space may follow it. -/
def parse? (cs : List Char) : Option Json := do
  let (value, rest) ← takeValue? (cs.length + 1) cs
  if (skipSpace rest).isEmpty then some value else none

def ofString? (text : String) : Option Json := parse? text.toList

end EstateSearch.Json
