import EstateSearch.Event
import EstateSearch.Settings.Basic

/-!
# Settings from the environment

Each setting has an environment variable of its own. A variable whose value makes no sense is
reported and its setting keeps the default.

Source: `search/src/config`.
-/

set_option autoImplicit false

namespace EstateSearch

/-- The values of the environment variables that searches look at. -/
structure Environment where
  /-- `SEARCH_SHORT_WORDS` -/
  shortWords : Option String
  /-- `SEARCH_SHORT_CODE_PATTERN` -/
  shortCodePattern : Option String
  /-- `SEARCH_TERM_MATCH` -/
  termMatch : Option String
  /-- `SEARCH_MAX_QUERY_CHARS` -/
  maxQueryChars : Option String
  deriving DecidableEq, Repr

namespace Settings

/-- The words of a list with commas between them, in lowercase; empty ones do not count. -/
def wordList (text : String) : List String :=
  let words := (Text.pieces (· == ',') text.toList).map fun piece => Text.lowercase (Text.trim piece)
  (words.filter fun word => !word.isEmpty).map String.ofList

/-- Reads the digits of a number that goes on after `value`. The first place that is at fault
decides which problem is named. -/
def countFrom (value : Nat) : List Char → Except CountProblem Nat
  | [] => .ok value
  | c :: rest =>
    match Decimal.digit? c with
    | none => .error .badDigit
    | some d =>
      let next := value * 10 + d.val
      if next < UInt64.size then countFrom next rest else .error .tooLarge

/-- Reads a natural number of 64 bits; a plus sign may stand before it. -/
def count (text : List Char) : Except CountProblem Nat :=
  match text with
  | [] => .error .empty
  | ['+'] => .error .badDigit
  | '+' :: rest => countFrom 0 rest
  | text => countFrom 0 text

def setting {α : Type} (initial : α) (read : String → Except Event α) :
    Option String → α × List Event
  | none => (initial, [])
  | some text =>
    match read text with
    | .ok value => (value, [])
    | .error event => (initial, [event])

def readShortCode (text : String) : Except Event String :=
  if (Pattern.ofString? text).isSome then .ok text else .error (.shortCodeIgnored text)

def readTermMatch (text : String) : Except Event TermMatch :=
  (TermMatch.ofString text).mapError fun problem => .termMatchIgnored problem.message

/-- Reads a limit for the length of queries; blanks around it do not count. -/
def readMaxQueryChars (text : String) : Except Event Nat :=
  (count (Text.trim text.toList)).mapError (.maxQueryCharsIgnored text)

/-- The settings that an environment makes, and what is to be reported about it. -/
def ofEnvironment (env : Environment) : Settings × List Event :=
  let shortCode := setting initial.shortCodePattern readShortCode env.shortCodePattern
  let termMatch := setting initial.termMatch readTermMatch env.termMatch
  let maxQueryChars := setting initial.maxQueryChars readMaxQueryChars env.maxQueryChars
  ({ shortWords := (env.shortWords.map wordList).getD initial.shortWords
     shortCodePattern := shortCode.1
     termMatch := termMatch.1
     maxQueryChars := maxQueryChars.1 },
    shortCode.2 ++ termMatch.2 ++ maxQueryChars.2)

end Settings

end EstateSearch
