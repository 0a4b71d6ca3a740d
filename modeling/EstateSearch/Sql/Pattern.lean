/-!
# Patterns of the SQL operator `LIKE`

In a pattern `%` stands for any stretch of characters, `_` for any one character, and a backslash
takes the character after it literally.

Source: `search/src/predicate/builder`.
-/

set_option autoImplicit false

namespace EstateSearch.Sql

/-- Has the character a meaning of its own in a pattern? -/
def isPatternSign (c : Char) : Bool :=
  c == '%' || c == '_' || c == '\\'

/-- A text as a pattern that matches just this text. -/
def escapePattern : List Char → List Char
  | [] => []
  | c :: rest => if isPatternSign c then '\\' :: c :: escapePattern rest else c :: escapePattern rest

def containingPattern (needle : List Char) : List Char :=
  '%' :: escapePattern needle ++ ['%']

end EstateSearch.Sql
