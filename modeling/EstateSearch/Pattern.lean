import EstateSearch.Pattern.Meaning
import EstateSearch.Pattern.Parser
import EstateSearch.Pattern.Size

/-!
# Patterns

A pattern is a regular expression as an operator writes it into the settings. It is read once, and
then only asked whether it occurs in a text.

Source: `search/src/config`, where `regex` reads the pattern.
-/

set_option autoImplicit false

namespace EstateSearch

structure Pattern where
  expression : Pattern.Expression
  deriving Repr

namespace Pattern

/-- The pattern that a text writes; none if the text breaks the syntax or asks for too much. -/
def ofString? (source : String) : Option Pattern := do
  let tree ← Tree.ofText? source.toList
  let (expression, _) ← Tree.meaning? .initial tree
  if expression.fits then some ⟨expression⟩ else none

/-- Does the pattern match some stretch of the text? -/
def occursIn (pattern : Pattern) (text : List Char) : Bool :=
  pattern.expression.occursIn text

end Pattern

end EstateSearch
