import EstateSearch.Json.Fields
import EstateSearch.Query.Basic

/-!
# The JSON form of queries

Source: `search/src/query/types`.
-/

set_option autoImplicit false

namespace EstateSearch.Query

open Json

def textsToJson (texts : List String) : Json := array (texts.map ofText)

def toJson (q : Query) : Json :=
  ofFields
    [("exact_phrases", textsToJson q.phrases),
      ("include_terms", textsToJson q.terms),
      ("exclude_terms", textsToJson q.exclusions),
      ("original_query", ofText q.typed)]

end EstateSearch.Query
