import EstateSearch.Decimal.Numeral

/-!
# JSON values

A JSON value as it is written: numbers keep their digits, and objects keep their members in order,
repeated keys included. A string literal may escape half of a surrogate pair; such a literal is well
formed but stands for no text.

Source: the values of `serde_json`, by which `search/src/criteria` and `cli/src/commands` read.
-/

set_option autoImplicit false

namespace EstateSearch

/-- A JSON value. A string is `none` if its literal stands for no text. -/
inductive Json where
  | null
  | boolean (value : Bool)
  | number (value : Decimal.Numeral)
  | string (value : Option String)
  | array (items : List Json)
  | object (members : List (Option String × Json))
  deriving Repr

end EstateSearch
