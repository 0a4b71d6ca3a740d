import EstateSearch.Decimal.Digits

/-!
# Events

What is reported while a search is prepared and run, as data: each event has a level, a message and
named fields.

Source: the events of `search/src/query/parser`, `search/src/predicate/compiler`,
`search/src/config` and `cli/src/commands`.
-/

set_option autoImplicit false

namespace EstateSearch

inductive Level where
  | debug
  | info
  | warn
  deriving DecidableEq, Repr

def Level.name : Level → String
  | debug => "DEBUG"
  | info => "INFO"
  | warn => "WARN"

/-- Why a text is no natural number of 64 bits. -/
inductive CountProblem where
  | empty
  | badDigit
  | tooLarge
  deriving DecidableEq, Repr

def CountProblem.message : CountProblem → String
  | empty => "cannot parse integer from empty string"
  | badDigit => "invalid digit found in string"
  | tooLarge => "number too large to fit in target type"

/-- Something worth reporting. -/
inductive Event where
  /-- a query that asks for something was read, with so many parts of each kind -/
  | queryRead (phrases terms exclusions : Nat)
  /-- the condition of a search for properties was made -/
  | propertySearch (conjuncts : Nat) (query : String)
  /-- the condition of a search for users was made -/
  | userSearch (conjuncts : Nat) (query : String)
  /-- the environment names a pattern that breaks the syntax -/
  | shortCodeIgnored (pattern : String)
  /-- the environment names a way to match terms that does not exist -/
  | termMatchIgnored (message : String)
  /-- the environment limits queries by something that is no number -/
  | maxQueryCharsIgnored (value : String) (problem : CountProblem)
  /-- so many properties were looked at and accepted -/
  | propertiesFiltered (total matched : Nat)
  deriving DecidableEq, Repr

namespace Event

def level : Event → Level
  | queryRead .. => .debug
  | propertySearch .. => .debug
  | userSearch .. => .debug
  | shortCodeIgnored .. => .warn
  | termMatchIgnored .. => .warn
  | maxQueryCharsIgnored .. => .warn
  | propertiesFiltered .. => .info

def message : Event → String
  | queryRead .. => "parsed search query"
  | propertySearch .. => "compiled property search predicate"
  | userSearch .. => "compiled user search predicate"
  | shortCodeIgnored .. => "invalid SEARCH_SHORT_CODE_PATTERN, using default"
  | termMatchIgnored .. => "invalid SEARCH_TERM_MATCH, using default"
  | maxQueryCharsIgnored .. => "invalid SEARCH_MAX_QUERY_CHARS, using default"
  | propertiesFiltered .. => "filtered properties"

def fields : Event → List (String × String)
  | queryRead phrases terms exclusions =>
    [("phrases", Decimal.natText phrases), ("include", Decimal.natText terms),
      ("exclude", Decimal.natText exclusions)]
  | propertySearch conjuncts query =>
    [("conjuncts", Decimal.natText conjuncts), ("query", query)]
  | userSearch conjuncts query =>
    [("conjuncts", Decimal.natText conjuncts), ("query", query)]
  | shortCodeIgnored pattern => [("pattern", pattern)]
  | termMatchIgnored message => [("error", message)]
  | maxQueryCharsIgnored value problem => [("value", value), ("error", problem.message)]
  | propertiesFiltered total matched =>
    [("total", Decimal.natText total), ("matched", Decimal.natText matched)]

end Event

end EstateSearch
