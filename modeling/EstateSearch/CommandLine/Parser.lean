import EstateSearch.CommandLine.Basic

/-!
# Reading the command line

A command line has two places for options: before the command and after it. Options that concern
every command may stand in either. A value is attached to its option (`--query=loft`, `-qloft`,
`-q=loft`) or is the next argument, which then must not look like an option. Each option may be
given once in each place; of a value given in both, the one after the command counts.

Source: `cli/src/argparse`, whose declarations `clap` turns into a reader by these rules.
-/

set_option autoImplicit false

namespace EstateSearch.CommandLine

inductive ValueOption where
  | config
  | query
  | criteria
  | records
  deriving DecidableEq, Repr

/-- The value of these options is a path, which is never empty. -/
def ValueOption.isPath : ValueOption → Bool
  | config => true
  | records => true
  | _ => false

/-- Where an option stands: before the command or after one of the commands. -/
inductive Place where
  | beforeCommand
  | afterExplain
  | afterFilter
  deriving DecidableEq, Repr

inductive Meaning where
  | value (option : ValueOption)
  | verbose
  | help
  deriving DecidableEq, Repr

def longMeaning? (place : Place) (name : List Char) : Option Meaning :=
  match String.ofList name, place with
  | "config", _ => some (.value .config)
  | "verbose", _ => some .verbose
  | "help", _ => some .help
  | "query", .afterExplain | "query", .afterFilter => some (.value .query)
  | "criteria", .afterExplain | "criteria", .afterFilter => some (.value .criteria)
  | "records", .afterFilter => some (.value .records)
  | _, _ => none

def shortMeaning? (place : Place) (name : Char) : Option Meaning :=
  match name, place with
  | 'v', _ => some .verbose
  | 'h', _ => some .help
  | 'q', .afterExplain | 'q', .afterFilter => some (.value .query)
  | 'c', .afterExplain | 'c', .afterFilter => some (.value .criteria)
  | 'r', .afterFilter => some (.value .records)
  | _, _ => none

/-- What has been read in one place. The latest option with a value waits until the next one comes,
so that what is wrong with it is found out only then. -/
structure Given where
  values : List (ValueOption × String)
  verbose : Bool
  waiting : Option (ValueOption × Option String)
  deriving DecidableEq, Repr

namespace Given

def nothing : Given := ⟨[], false, none⟩

def value? (given : Given) (option : ValueOption) : Option String :=
  (given.values.find? fun entry => entry.1 == option).map (·.2)

/-- Takes in the option that waits. -/
def settle (given : Given) : Except UsageError Given :=
  match given.waiting with
  | none => .ok given
  | some (_, none) => .error .valueMissing
  | some (option, some text) =>
    if (given.value? option).isSome then .error .repeated
    else if option.isPath && text.isEmpty then .error .valueMissing
    else .ok { given with values := given.values ++ [(option, text)], waiting := none }

/-- Takes in an option with a value that is attached, or that is to come next. -/
def addValue (given : Given) (option : ValueOption) (text : Option String) :
    Except UsageError Given := do
  let settled ← given.settle
  match text with
  | none => return { settled with waiting := some (option, none) }
  | some text => settle { settled with waiting := some (option, some text) }

def addVerbose (given : Given) : Except UsageError Given := do
  let settled ← given.settle
  if settled.verbose then .error .repeated else return { settled with verbose := true }

def addHelp (given : Given) : Except UsageError Given := do
  let _ ← given.settle
  .error .helpAsked

end Given

def cutValue : List Char → List Char × Option (List Char)
  | [] => ([], none)
  | c :: rest =>
    if c = '=' then ([], some rest)
    else
      let (name, value) := cutValue rest
      (c :: name, value)

/-- Takes in a long option, given without its hyphens. -/
def addLong (place : Place) (given : Given) (text : List Char) : Except UsageError Given :=
  let (name, value) := cutValue text
  match longMeaning? place name with
  | none => .error .unknownArgument
  | some (.value option) => given.addValue option (value.map String.ofList)
  | some .verbose => if value.isSome then .error .valueUnneeded else given.addVerbose
  | some .help => if value.isSome then .error .valueUnneeded else given.addHelp

/-- The value that is attached to a short option; one equality sign before it does not count. -/
def attachedValue? : List Char → Option String
  | [] => none
  | '=' :: rest => some (String.ofList rest)
  | text => some (String.ofList text)

/-- Takes in a cluster of short options, given without the hyphen. The first one with a value ends
it. -/
def addShort (place : Place) (given : Given) : List Char → Except UsageError Given
  | [] => .ok given
  | c :: rest =>
    match shortMeaning? place c with
    | none => .error .unknownArgument
    | some (.value option) => given.addValue option (attachedValue? rest)
    | some .verbose => do
      let given ← given.addVerbose
      addShort place given rest
    | some .help => given.addHelp

inductive Shape where
  /-- two hyphens, after which nothing is an option any more -/
  | escape
  | long (text : List Char)
  | short (text : List Char)
  | word
  deriving DecidableEq, Repr

/-- The shape of an argument. A single hyphen is an ordinary word. -/
def shape : List Char → Shape
  | ['-', '-'] => .escape
  | '-' :: '-' :: text => .long text
  | ['-'] => .word
  | '-' :: text => .short text
  | _ => .word

def commandPlace? (argument : String) : Option Place :=
  match argument with
  | "explain" => some .afterExplain
  | "filter" => some .afterFilter
  | _ => none

/-- Is the argument a command, or the request for help on one? -/
def isCommandWord (argument : String) : Bool :=
  (commandPlace? argument).isSome || argument == "help"

def readAfterCommand (place : Place) (given : Given) : List String → Except UsageError Given
  | [] => given.settle
  | argument :: rest =>
    match shape argument.toList with
    | .escape => if rest.isEmpty then given.settle else .error .unknownArgument
    | .long text => do
      let given ← addLong place given text
      readAfterCommand place given rest
    | .short text => do
      let given ← addShort place given text
      readAfterCommand place given rest
    | .word =>
      match given.waiting with
      | some (option, none) =>
        readAfterCommand place { given with waiting := some (option, some argument) } rest
      | _ => .error .unknownArgument

def commandOf (place : Place) (given : Given) : Except UsageError Command :=
  let search : SearchArguments := ⟨(given.value? .query).getD "", given.value? .criteria⟩
  match place with
  | .afterFilter =>
    match given.value? .records with
    | some records => .ok (.filter search records)
    | none => .error .recordsMissing
  | _ => .ok (.explain search)

/-- What a request for help with these names of commands ends in. -/
def helpOutcome : List String → UsageError
  | [] => .helpAsked
  | [name] => if isCommandWord name then .helpAsked else .unknownCommand
  | _ => .unknownCommand

/-- What an argument means that follows two hyphens before any command. -/
def strayOutcome (argument : String) : UsageError :=
  if isCommandWord argument then .unknownArgument else .unknownCommand

/-- Reads the command and what follows it, after options that concern every command. -/
def readCommand (before : Given) (place : Place) (arguments : List String) :
    Except UsageError Invocation := do
  let after ← readAfterCommand place .nothing arguments
  let command ← commandOf place after
  let before ← before.settle
  return { config := (after.value? .config).or (before.value? .config)
           verbose := before.verbose || after.verbose
           command }

def readFrom (given : Given) : List String → Except UsageError Invocation
  | [] => do
    let settled ← given.settle
    if settled.values.isEmpty && !settled.verbose then .error .noArguments
    else .error .commandMissing
  | argument :: rest =>
    match shape argument.toList with
    | .escape =>
      match rest with
      | [] => do
        let settled ← given.settle
        if settled.values.isEmpty && !settled.verbose then .error .noArguments
        else .error .commandMissing
      | argument :: _ => .error (strayOutcome argument)
    | .long text => do
      let given ← addLong .beforeCommand given text
      readFrom given rest
    | .short text => do
      let given ← addShort .beforeCommand given text
      readFrom given rest
    | .word =>
      match given.waiting with
      | some (option, none) => readFrom { given with waiting := some (option, some argument) } rest
      | _ =>
        if argument == "help" then .error (helpOutcome rest)
        else
          match commandPlace? argument with
          | some place => readCommand given place rest
          | none => .error .unknownCommand

def parse (arguments : List String) : Except UsageError Invocation :=
  readFrom .nothing arguments

end EstateSearch.CommandLine
