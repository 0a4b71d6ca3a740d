/-!
# Search queries

What the text of a search box asks for: phrases to be found as they are, terms of which some or all
are to be found, and terms that must not be found.

Source: `search/src/query/types`.
-/

set_option autoImplicit false

namespace EstateSearch

/-- The parts of a query, in lowercase and in order of appearance. -/
structure Query where
  phrases : List String
  terms : List String
  exclusions : List String
  /-- the text as it was typed -/
  typed : String
  deriving DecidableEq, Repr

namespace Query

def isEmpty (q : Query) : Bool :=
  q.phrases.isEmpty && q.terms.isEmpty && q.exclusions.isEmpty

/-- The query in its usual form: phrases between quotes, terms, and exclusions after a hyphen. -/
def display (q : Query) : String :=
  " ".intercalate
    (q.phrases.map (fun phrase => "\"" ++ phrase ++ "\"") ++ q.terms ++
      q.exclusions.map (fun term => "-" ++ term))

end Query

end EstateSearch
