import EstateSearch.Field
import EstateSearch.Text.Lowercase
import EstateSearch.Value

/-!
# Search conditions

A condition is a Boolean expression over the fields of a record. Conditions are put together with
`allOf`, `anyOf`, `negate` and `mentions`, which flatten nested groups, leave out what is always
true and keep needles in lowercase; the bare constructors build any tree.

Source: `search/src/predicate/types`.
-/

set_option autoImplicit false

namespace EstateSearch

/-- How a field is compared with a value. -/
inductive Comparison where
  | equal
  | atLeast
  | atMost
  deriving DecidableEq, Repr

def Comparison.sign : Comparison → String
  | equal => "="
  | atLeast => ">="
  | atMost => "<="

/-- A Boolean condition over the fields of a record. An empty group of either kind holds of every
record. -/
inductive Condition where
  /-- holds of every record -/
  | always
  /-- holds if all members do -/
  | all (members : List Condition)
  /-- holds if some member does, or there is none -/
  | any (members : List Condition)
  /-- holds if the other condition does not -/
  | not (condition : Condition)
  /-- holds if the lowercase of the field contains the needle -/
  | contains (field : Field) (needle : String)
  /-- holds if the field compares with the value as said -/
  | compare (comparison : Comparison) (field : Field) (value : Value)
  deriving Repr

namespace Condition

/-- Is it the condition that holds of every record by its form? -/
def isTrivial : Condition → Bool
  | always => true
  | _ => false

/-- What a member adds to a group that asks for all of its members. -/
def conjuncts : Condition → List Condition
  | always => []
  | all members => members
  | other => [other]

/-- What a member adds to a group that asks for one of its members. -/
def alternatives : Condition → List Condition
  | any members => members
  | other => [other]

/-- Does a member make a group that asks for one of its members hold always? -/
def isVacuous : Condition → Bool
  | always => true
  | any [] => true
  | _ => false

/-- The group of the members, where a group of one is its member and an empty one holds always. -/
def grouped (group : List Condition → Condition) : List Condition → Condition
  | [] => always
  | [member] => member
  | members => group members

/-- The condition that asks for all of the given ones. -/
def allOf (members : List Condition) : Condition :=
  grouped all (members.flatMap conjuncts)

/-- The condition that asks for one of the given ones. It holds always if one of them does by its
form, or if there are none. -/
def anyOf (members : List Condition) : Condition :=
  if members.any isVacuous then always else grouped any (members.flatMap alternatives)

def negate : Condition → Condition
  | not condition => condition
  | other => not other

/-- The condition that a text field contains a needle in any letter case. -/
def mentions (field : Field) (needle : String) : Condition :=
  contains field (Text.lower needle)

def equal (field : Field) (value : Value) : Condition := compare .equal field value

def atLeast (field : Field) (value : Value) : Condition := compare .atLeast field value

def atMost (field : Field) (value : Value) : Condition := compare .atMost field value

/-- The number of conditions that must hold together at the top of a condition. -/
def requirementCount : Condition → Nat
  | always => 0
  | all members => members.length
  | _ => 1

mutual

/-- Are the two the same tree, with values alike? -/
def isLike : Condition → Condition → Bool
  | always, always => true
  | all as, all bs => areLike as bs
  | any as, any bs => areLike as bs
  | not a, not b => isLike a b
  | contains f s, contains g t => f == g && s == t
  | compare c f v, compare d g w => c == d && f == g && v.isLike w
  | _, _ => false

def areLike : List Condition → List Condition → Bool
  | [], [] => true
  | a :: as, b :: bs => isLike a b && areLike as bs
  | _, _ => false

end

end Condition

end EstateSearch
