import EstateSearch.Instant.Parser
import EstateSearch.Instant.Printer
import EstateSearch.Json.Number

/-!
# Records as JSON objects

A record is read from an object whose keys are the names of its fields. Keys that are no field are
passed over, a field may be given once, and one that is not given has its default. A record may also
be given as an array of its fields in order, of which the last ones may be missing.

These are the rules that `serde` derives for the records of `search/src/criteria`,
`search/src/record` and `search/src/config`.
-/

set_option autoImplicit false

namespace EstateSearch.Json

/-- The given fields of a record, by name. -/
abbrev Fields := List (String × Json)

def usesOnce (names : List String) (fields : Fields) : Bool :=
  names.all fun name => (fields.filter fun field => field.1 == name).length ≤ 1

/-- The members of an object with the text of their keys; none if a key stands for no text. -/
def namedMembers? (members : List (Option String × Json)) : Option Fields :=
  members.mapM fun member => member.1.map fun key => (key, member.2)

def fields? (names : List String) : Json → Option Fields
  | object members => do
    let fields ← namedMembers? members
    if usesOnce names fields then some fields else none
  | array items => if items.length ≤ names.length then some (names.zip items) else none
  | _ => none

def Fields.get? (fields : Fields) (name : String) : Option Json :=
  (fields.find? fun field => field.1 == name).map (·.2)

/-- Reads a field that may be unset: not given, or given as null. -/
def Fields.optional? {α : Type} (fields : Fields) (name : String) (read : Json → Option α) :
    Option (Option α) :=
  match fields.get? name with
  | none => some none
  | some null => some none
  | some value => (read value).map some

/-- Reads a field that has a default where it is not given. -/
def Fields.withDefault? {α : Type} (fields : Fields) (name : String) (default : α)
    (read : Json → Option α) : Option α :=
  match fields.get? name with
  | none => some default
  | some value => read value

def readText? : Json → Option String
  | string value => value
  | _ => none

def readBoolean? : Json → Option Bool
  | boolean value => some value
  | _ => none

def readInteger? : Json → Option Int64
  | number value => int64? value
  | _ => none

def readNumber? : Json → Option Binary64
  | number value => binary64? value
  | _ => none

def readInstant? : Json → Option Instant
  | string (some text) => Instant.ofString? text
  | _ => none

def ofText (text : String) : Json := string (some text)

def ofInstant (t : Instant) : Json := ofText t.recordText

def ofOption {α : Type} (write : α → Json) : Option α → Json
  | some a => write a
  | none => null

def ofFields (fields : Fields) : Json :=
  object (fields.map fun field => (some field.1, field.2))

end EstateSearch.Json
