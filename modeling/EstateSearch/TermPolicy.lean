import EstateSearch.Pattern
import EstateSearch.Text.Lowercase

/-!
# Which terms are worth a search

A term of one character is never searched for and one of three or more always is. A term of two is
searched for if it is one of the listed words or the short-code pattern occurs in it.

Source: `search/src/config`.
-/

set_option autoImplicit false

namespace EstateSearch

/-- Decides which lowercase terms are kept. -/
structure TermPolicy where
  /-- words in lowercase that are kept although they are short -/
  shortWords : List String
  shortCode : Pattern
  deriving Repr

namespace TermPolicy

/-- The policy of a list of words in any letter case and a pattern. -/
def ofWords (words : List String) (shortCode : Pattern) : TermPolicy :=
  ⟨words.map Text.lower, shortCode⟩

/-- Is the term kept? Length is counted in code points. -/
def admits (policy : TermPolicy) (term : String) : Bool :=
  match term.toList with
  | [] => false
  | [_] => false
  | [a, b] => policy.shortWords.contains term || policy.shortCode.occursIn [a, b]
  | _ => true

end TermPolicy

end EstateSearch
