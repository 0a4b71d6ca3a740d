import EstateSearch.Condition.Basic
import EstateSearch.Decimal.Digits
import EstateSearch.Sql.Pattern

/-!
# Conditions as SQL

A condition becomes the text of a `WHERE` and the values for its placeholders. Values never enter
the text: each comparison with a value and each text match takes the next placeholder, from left to
right, and its value is appended to the binds. A comparison with a missing value takes none, as it
holds of no row.

Source: `search/src/predicate/builder`.
-/

set_option autoImplicit false

namespace EstateSearch.Sql

/-- A value for a placeholder. -/
inductive Bind where
  | text (content : String)
  | integer (content : Int64)
  | number (content : Binary64)
  | boolean (content : Bool)
  | instant (content : Instant)
  deriving DecidableEq, Repr

/-- The bind of a field value; a missing value has none. -/
def Bind.ofValue? : Value → Option Bind
  | .text s => some (.text s)
  | .integer i => some (.integer i)
  | .number x => some (.number x)
  | .boolean b => some (.boolean b)
  | .instant t => some (.instant t)
  | .missing => none

/-- The text of a bind in listings; texts and instants stand between quotes. -/
def Bind.display : Bind → String
  | text s => "'" ++ s ++ "'"
  | integer i => Decimal.intText i.toInt
  | number x => Value.numberText x
  | boolean b => Value.booleanText b
  | instant t => "'" ++ t.text ++ "'"

def Bind.containing (needle : String) : Bind :=
  .text (String.ofList (containingPattern needle.toList))

def placeholderText (n : Nat) : String := "$" ++ Decimal.natText n

/-- What has been handed out on the way through a condition: the number of the latest placeholder
and the values of those handed out so far. -/
structure Slots where
  latest : Nat
  binds : List Bind
  deriving DecidableEq, Repr

def Slots.push (slots : Slots) (bind : Bind) : Slots :=
  ⟨slots.latest + 1, slots.binds ++ [bind]⟩

/-- The lowercase of a column, empty for a null, against a pattern. A null must not make the match
neither true nor false, as then a negation would drop the row. -/
def likeText (field : Field) (placeholder : Nat) : String :=
  "COALESCE(LOWER(" ++ field.column ++ "), '') LIKE " ++ placeholderText placeholder ++
    " ESCAPE '\\'"

def compareText (comparison : Comparison) (field : Field) (placeholder : Nat) : String :=
  field.column ++ " " ++ comparison.sign ++ " " ++ placeholderText placeholder

/-- Is the text of the condition a group with its own parentheses? -/
def isGroup : Condition → Bool
  | .all members => !members.isEmpty
  | .any members => !members.isEmpty
  | _ => false

mutual

def write (slots : Slots) : Condition → String × Slots
  | .always => ("1=1", slots)
  | .all [] => ("1=1", slots)
  | .any [] => ("1=1", slots)
  | .all members =>
    let (texts, after) := writeEach slots members
    ("(" ++ " AND ".intercalate texts ++ ")", after)
  | .any members =>
    let (texts, after) := writeEach slots members
    ("(" ++ " OR ".intercalate texts ++ ")", after)
  | .not condition =>
    let (text, after) := write slots condition
    (if isGroup condition then "NOT " ++ text else "NOT (" ++ text ++ ")", after)
  | .contains field needle =>
    let after := slots.push (.containing needle)
    (likeText field after.latest, after)
  | .compare comparison field value =>
    match Bind.ofValue? value with
    | some bind =>
      let after := slots.push bind
      (compareText comparison field after.latest, after)
    | none => ("1=0", slots)

def writeEach (slots : Slots) : List Condition → List String × Slots
  | [] => ([], slots)
  | member :: others =>
    let (text, after) := write slots member
    let (texts, last) := writeEach after others
    (text :: texts, last)

end

/-- The text of a `WHERE` clause and the values for its placeholders. -/
structure Fragment where
  text : String
  binds : List Bind
  deriving DecidableEq, Repr

/-- The fragment of a condition that goes into a statement with `offset` placeholders before it. -/
def Fragment.ofCondition (offset : Nat) (condition : Condition) : Fragment :=
  let (text, slots) := write ⟨offset, []⟩ condition
  ⟨text, slots.binds⟩

end EstateSearch.Sql
