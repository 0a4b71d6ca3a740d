import EstateSearch.Json.Basic
import EstateSearch.Json.Text

/-!
# Writing JSON

Two layouts: `compact` writes no space at all, and `pretty` puts every item and member on a line of
its own, indented by two spaces for each level. Empty arrays and objects have no inside in either.

The layouts are those of `serde_json`.
-/

set_option autoImplicit false

namespace EstateSearch.Json

/-- The literal of a string value. A value that stands for no text is written as an empty one; no
value that is made from a text has none. -/
def stringText (value : Option String) : List Char := quoted (value.getD "")

/-- A line break and the indentation of a level. -/
def newLine (level : Nat) : List Char := '\n' :: List.replicate (2 * level) ' '

inductive Style where
  | compact
  | pretty
  deriving DecidableEq, Repr

/-- What stands before each part of a group on a level. -/
def Style.break (style : Style) (level : Nat) : List Char :=
  match style with
  | compact => []
  | pretty => newLine level

def Style.colon : Style → List Char
  | compact => [':']
  | pretty => [':', ' ']

mutual

/-- The text of a value that stands on a level. -/
def print (style : Style) (level : Nat) : Json → List Char
  | null => ['n', 'u', 'l', 'l']
  | boolean true => ['t', 'r', 'u', 'e']
  | boolean false => ['f', 'a', 'l', 's', 'e']
  | number value => value.text
  | string value => stringText value
  | array [] => ['[', ']']
  | array (item :: items) =>
    '[' :: style.break (level + 1) ++ print style (level + 1) item ++
      printItems style (level + 1) items ++ style.break level ++ [']']
  | object [] => ['{', '}']
  | object ((key, value) :: members) =>
    '{' :: style.break (level + 1) ++ stringText key ++ style.colon ++
      print style (level + 1) value ++ printMembers style (level + 1) members ++
      style.break level ++ ['}']

def printItems (style : Style) (level : Nat) : List Json → List Char
  | [] => []
  | item :: items =>
    ',' :: style.break level ++ print style level item ++ printItems style level items

def printMembers (style : Style) (level : Nat) : List (Option String × Json) → List Char
  | [] => []
  | (key, value) :: members =>
    ',' :: style.break level ++ stringText key ++ style.colon ++ print style level value ++
      printMembers style level members

end

/-- The text of a value without any space. -/
def compact (value : Json) : String := String.ofList (print .compact 0 value)

/-- The text of a value over several lines. -/
def pretty (value : Json) : String := String.ofList (print .pretty 0 value)

end EstateSearch.Json
