/-!
# The command line

What can be asked of the program: to explain a search, or to filter a file of properties by one.

Source: the commands and options of `cli/src/argparse`.
-/

set_option autoImplicit false

namespace EstateSearch.CommandLine

/-- What both commands take: the text of a query and the criteria as a JSON text. -/
structure SearchArguments where
  query : String
  criteria : Option String
  deriving DecidableEq, Repr

inductive Command where
  /-- say how the search is understood -/
  | explain (search : SearchArguments)
  /-- write the properties of a file that the search accepts -/
  | filter (search : SearchArguments) (records : String)
  deriving DecidableEq, Repr

/-- A complete command line. -/
structure Invocation where
  /-- the file of settings; without one the environment makes them -/
  config : Option String
  /-- are events of the lowest level reported? -/
  verbose : Bool
  command : Command
  deriving DecidableEq, Repr

def Invocation.paths (invocation : Invocation) : List String :=
  invocation.config.toList ++
    match invocation.command with
    | .explain _ => []
    | .filter _ records => [records]

/-- Why a command line is not carried out. -/
inductive UsageError where
  /-- there is nothing on it -/
  | noArguments
  /-- it asks for help -/
  | helpAsked
  | unknownArgument
  | unknownCommand
  /-- an option has no value, or an empty one where a path is needed -/
  | valueMissing
  /-- an option or flag is given twice in one place -/
  | repeated
  /-- the command needs a file of records -/
  | recordsMissing
  /-- a flag has a value -/
  | valueUnneeded
  | commandMissing
  deriving DecidableEq, Repr

def UsageError.message : UsageError → String
  | noArguments => "no arguments are given; the commands are explain and filter"
  | helpAsked => "the commands are explain and filter; filter needs a file of records"
  | unknownArgument => "an argument is not known"
  | unknownCommand => "the command is not known"
  | valueMissing => "an option has no value"
  | repeated => "an option is given twice"
  | recordsMissing => "a file of records is needed"
  | valueUnneeded => "a flag takes no value"
  | commandMissing => "a command is needed"

end EstateSearch.CommandLine
