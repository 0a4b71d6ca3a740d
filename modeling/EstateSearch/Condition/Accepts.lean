import EstateSearch.Condition.Basic
import EstateSearch.Record
import EstateSearch.Text.Occurs

/-!
# What a condition accepts

The meaning of a condition: the records that it accepts, seen through their rows.

Source: `search/src/predicate/eval`.
-/

set_option autoImplicit false

namespace EstateSearch

/-- Does a field that holds `held` compare with `value` as said? -/
def Comparison.holds (comparison : Comparison) (held value : Value) : Bool :=
  match comparison with
  | equal => held.equals value
  | atLeast => held.order? value == some .gt || held.order? value == some .eq
  | atMost => held.order? value == some .lt || held.order? value == some .eq

/-- Is the value a text whose lowercase contains the needle? -/
def Value.contains (needle : String) : Value → Bool
  | .text content => Text.occursIn needle.toList (Text.lowercase content.toList)
  | _ => false

namespace Condition

mutual

/-- Does the condition accept a record with this row? -/
def accepts (row : Row) : Condition → Bool
  | always => true
  | all members => acceptedByAll row members
  | any members => members.isEmpty || acceptedByAny row members
  | not condition => !accepts row condition
  | contains field needle => (row field).contains needle
  | compare comparison field value => comparison.holds (row field) value

def acceptedByAll (row : Row) : List Condition → Bool
  | [] => true
  | member :: others => accepts row member && acceptedByAll row others

def acceptedByAny (row : Row) : List Condition → Bool
  | [] => false
  | member :: others => accepts row member || acceptedByAny row others

end

theorem acceptedByAll_eq (row : Row) (members : List Condition) :
    acceptedByAll row members = members.all (accepts row) := by
  induction members with
  | nil => rfl
  | cons member others ih => simp [acceptedByAll, ih]

theorem acceptedByAny_eq (row : Row) (members : List Condition) :
    acceptedByAny row members = members.any (accepts row) := by
  induction members with
  | nil => rfl
  | cons member others ih => simp [acceptedByAny, ih]

/-- The records that the condition accepts, in their order. -/
def filter {α : Type} (condition : Condition) (row : α → Row) (records : List α) : List α :=
  records.filter fun record => condition.accepts (row record)

end Condition

end EstateSearch
