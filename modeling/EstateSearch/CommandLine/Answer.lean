import EstateSearch.CommandLine.Basic
import EstateSearch.Condition.Accepts
import EstateSearch.Condition.Display
import EstateSearch.Criteria.Json
import EstateSearch.Event
import EstateSearch.Query.Parser
import EstateSearch.Record.Json
import EstateSearch.Settings.Environment
import EstateSearch.Settings.Yaml
import EstateSearch.Sql.Fragment
import EstateSearch.Text.Quoted
import EstateSearch.Limits

/-!
# The answer to a command line

What the two commands answer, as functions of the settings, the arguments and the contents of the
files that are named. Every answer comes with the events on the way to it.

Source: `cli/src/commands`.
-/

set_option autoImplicit false

namespace EstateSearch

/-- The events of reading a query; a blank one is not worth reporting. -/
def Query.events (q : Query) : List Event :=
  if Text.isBlankText q.typed.toList then []
  else [.queryRead q.phrases.length q.terms.length q.exclusions.length]

namespace CommandLine

/-- What is known of a file: its contents, or none if it cannot be read. -/
abbrev Contents := Option String

/-- The settings for a command: from the file that is named, and otherwise from the environment. -/
def loadSettings (config : Option (String × Contents)) (env : Environment) :
    Except Problem (Settings × List Event) :=
  match config with
  | none => .ok (Settings.ofEnvironment env)
  | some (path, none) => .error (.settingsFile path .unreadable)
  | some (path, some text) =>
    match Settings.ofYaml? text with
    | some settings => .ok (settings, [])
    | none => .error (.settingsFile path .malformed)

/-- A search that has been read and made into a condition. -/
structure Prepared where
  query : Query
  condition : Condition
  events : List Event
  deriving Repr

/-- The criteria that a text describes; without a text none are set. -/
def readCriteria : Option String → Except Problem PropertyCriteria
  | none => .ok .blank
  | some text =>
    match PropertyCriteria.ofString? text with
    | some criteria => .ok criteria
    | none => .error .propertyCriteria

/-- Checks and reads the arguments of a search and makes its condition. -/
def prepare (settings : Settings) (arguments : SearchArguments) : Except Problem Prepared := do
  Limits.checkQuery settings.maxQueryChars arguments.query
  let criteria ← readCriteria arguments.criteria
  Limits.checkCriteria criteria
  let policy ← settings.termPolicy
  let query := Query.parse policy arguments.query
  let condition := Search.propertyCondition settings.termMatch criteria query
  return { query
           condition
           events := query.events ++ [.propertySearch condition.requirementCount query.display] }

def bindLines (n : Nat) : List Sql.Bind → String
  | [] => ""
  | bind :: others =>
    "  $" ++ Decimal.natText n ++ " = " ++ bind.display ++ "\n" ++ bindLines (n + 1) others

/-- How a search is understood: the parts of its query, its condition and its SQL. -/
def explanation (search : Prepared) : String :=
  let sql := Sql.Fragment.ofCondition 0 search.condition
  "phrases:   " ++ Text.quotedList search.query.phrases ++ "\n" ++
    "include:   " ++ Text.quotedList search.query.terms ++ "\n" ++
    "exclude:   " ++ Text.quotedList search.query.exclusions ++ "\n" ++
    "predicate: " ++ search.condition.display ++ "\n" ++
    "sql:       " ++ sql.text ++ "\n" ++ bindLines 1 sql.binds

def explain (settings : Settings) (arguments : SearchArguments) :
    Except Problem (String × List Event) := do
  let search ← prepare settings arguments
  return (explanation search, search.events)

def readProperties (path : String) : Contents → Except Problem (List Property)
  | none => .error (.recordsUnreadable path)
  | some text =>
    match recordsOfString? Property.ofJson? text with
    | some properties => .ok properties
    | none => .error (.recordsText path)

def filter (settings : Settings) (arguments : SearchArguments) (path : String)
    (contents : Contents) : Except Problem (String × List Event) := do
  let search ← prepare settings arguments
  let properties ← readProperties path contents
  let accepted := search.condition.filter Property.row properties
  return ((Json.array (accepted.map Property.toJson)).pretty,
    search.events ++ [.propertiesFiltered properties.length accepted.length])

/-- The answer to a complete command line, where `contents` tells what is in a file. -/
def answer (contents : String → Contents) (env : Environment) (invocation : Invocation) :
    Except Problem (String × List Event) := do
  let config := invocation.config.map fun path => (path, contents path)
  let (settings, settingsEvents) ← loadSettings config env
  let (text, events) ←
    match invocation.command with
    | .explain search => explain settings search
    | .filter search records => filter settings search records (contents records)
  return (text, settingsEvents ++ events)

end CommandLine

end EstateSearch
