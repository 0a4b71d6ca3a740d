import EstateSearch.CommandLine.Parser
import EstateSearch.CommandLine.Answer

/-!
# The program

Reads the environment and the files that the command line names, and prints the answer. Events go to
the error output, those of the lowest level only if asked for.

Source: `cli/src/main`, of which three things are left out. It first adds the variables of a file
`.env` to the environment; it lets the variable `RUST_LOG`, where that is set, choose the events to
be written in place of the flag; and it writes events as they happen, with their times, also where a
command then fails. No answer hangs on the last two, and none on the first but through the
environment, which `CommandLine.answer` is given as a whole.
-/

set_option autoImplicit false

namespace EstateSearch

/-- The contents of a file; none if it cannot be read. -/
def readContents (path : String) : IO (String × CommandLine.Contents) := do
  try
    let text ← IO.FS.readFile path
    return (path, some text)
  catch _ => return (path, none)

def readEnvironment : IO Environment := do
  let shortWords ← IO.getEnv "SEARCH_SHORT_WORDS"
  let shortCodePattern ← IO.getEnv "SEARCH_SHORT_CODE_PATTERN"
  let termMatch ← IO.getEnv "SEARCH_TERM_MATCH"
  let maxQueryChars ← IO.getEnv "SEARCH_MAX_QUERY_CHARS"
  return { shortWords, shortCodePattern, termMatch, maxQueryChars }

def Event.isShown (verbose : Bool) (event : Event) : Bool := verbose || event.level != .debug

def Event.line (event : Event) : String :=
  " ".intercalate
    ([event.level.name, event.message] ++ event.fields.map fun field => field.1 ++ "=" ++ field.2)

/-- Carries out a command line and gives the exit code. -/
def carryOut (invocation : CommandLine.Invocation) : IO UInt32 := do
  let env ← readEnvironment
  let files ← invocation.paths.mapM readContents
  match CommandLine.answer (fun path => (files.lookup path).join) env invocation with
  | .ok (answer, events) =>
    for event in events.filter (Event.isShown invocation.verbose) do
      IO.eprintln event.line
    IO.println answer
    return 0
  | .error problem =>
    IO.eprintln ("Error: " ++ problem.message)
    return 1

end EstateSearch

def main (arguments : List String) : IO UInt32 :=
  match EstateSearch.CommandLine.parse arguments with
  | .ok invocation => EstateSearch.carryOut invocation
  | .error problem => do
    IO.eprintln ("Error: " ++ problem.message)
    return 2
