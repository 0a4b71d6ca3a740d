import EstateSearch.Proofs.Condition.Leaves
import EstateSearch.Proofs.Condition.Unknown

/-!
# What is definite

Where the three-valued reading of a condition comes to a verdict, it is the decision in memory
(`accepts_of_truth`). If no comparison stands under a negation, it is true of every row that is
accepted in memory (`truth_eq_true_iff`); a comparison with a missing value does no harm there, as
it is false of a null too. The leaves in question are listed by `negatedLeaves`.
-/

set_option autoImplicit false

namespace EstateSearch.Condition

mutual

/-- The text matches and comparisons of a condition that stand under a negation. -/
def negatedLeaves : Condition → List Condition
  | always => []
  | all members => negatedLeavesOfEach members
  | any members => negatedLeavesOfEach members
  | not condition => leaves condition
  | contains _ _ => []
  | compare _ _ _ => []

def negatedLeavesOfEach : List Condition → List Condition
  | [] => []
  | member :: others => negatedLeaves member ++ negatedLeavesOfEach others

end

theorem negatedLeavesOfEach_eq (members : List Condition) :
    negatedLeavesOfEach members = members.flatMap negatedLeaves := by
  induction members with
  | nil => rfl
  | cons member others ih => rw [negatedLeavesOfEach, ih, List.flatMap_cons]

@[simp]
theorem negatedLeaves_all (members : List Condition) :
    negatedLeaves (all members) = members.flatMap negatedLeaves := negatedLeavesOfEach_eq members

@[simp]
theorem negatedLeaves_any (members : List Condition) :
    negatedLeaves (any members) = members.flatMap negatedLeaves := negatedLeavesOfEach_eq members

/-- Do the leaves compare with nothing but missing values? -/
def CompareWithMissing (leaves : List Condition) : Prop :=
  ∀ comparison field value, compare comparison field value ∈ leaves → value = .missing

theorem CompareWithMissing.of_mem {members : List Condition} {leavesOf : Condition → List Condition}
    (h : CompareWithMissing (members.flatMap leavesOf)) {member : Condition}
    (belongs : member ∈ members) : CompareWithMissing (leavesOf member) :=
  fun comparison field value leaf =>
    h comparison field value (List.mem_flatMap.2 ⟨member, belongs, leaf⟩)

variable (row : Row)

theorem any_negatesOpen_eq_false {members : List Condition} {negated : Bool}
    (h : ∀ member ∈ members, negatesOpen negated row member = false) :
    members.any (negatesOpen negated row) = false := by
  simpa using h

/-- Without a comparison with a value nothing is open. -/
theorem negatesOpen_of_leaves (condition : Condition) (h : CompareWithMissing condition.leaves)
    (negated : Bool) : negatesOpen negated row condition = false := by
  induction condition generalizing negated with
  | always => rfl
  | all members ih =>
    rw [leaves_all] at h
    rw [negatesOpen_all]
    exact any_negatesOpen_eq_false row fun member belongs =>
      ih member belongs (h.of_mem belongs) negated
  | any members ih =>
    rw [leaves_any] at h
    rw [negatesOpen_any]
    exact any_negatesOpen_eq_false row fun member belongs =>
      ih member belongs (h.of_mem belongs) negated
  | not condition ih => exact ih h (!negated)
  | contains field needle => rfl
  | compare comparison field value =>
    have missing : value = .missing := h comparison field value (List.mem_singleton.2 rfl)
    simp [negatesOpen, missing]

/-- Without a comparison with a value under a negation nothing open is negated. -/
theorem negatesOpen_of_negatedLeaves (condition : Condition)
    (h : CompareWithMissing condition.negatedLeaves) : negatesOpen false row condition = false := by
  induction condition with
  | always => rfl
  | all members ih =>
    rw [negatedLeaves_all] at h
    rw [negatesOpen_all]
    exact any_negatesOpen_eq_false row fun member belongs => ih member belongs (h.of_mem belongs)
  | any members ih =>
    rw [negatedLeaves_any] at h
    rw [negatesOpen_any]
    exact any_negatesOpen_eq_false row fun member belongs => ih member belongs (h.of_mem belongs)
  | not condition => exact negatesOpen_of_leaves row condition h true
  | contains field needle => rfl
  | compare comparison field value => rfl

/-- A verdict is the decision in memory. -/
theorem accepts_of_truth {condition : Condition} {verdict : Bool}
    (h : truth row condition = some verdict) : accepts row condition = verdict := by
  rw [truth_eq_some_iff] at h
  -- Were the decision the opposite one, the guess would be on its side and could not undo it.
  by_cases same : accepts row condition = verdict
  · exact same
  · rw [guessed_of_accepts row condition (Bool.eq_not_of_ne same)] at h
    simp at h

/-- With nothing but missing values compared under negations, SQL and memory accept the same
rows. -/
theorem truth_eq_true_iff {condition : Condition}
    (h : CompareWithMissing condition.negatedLeaves) :
    truth row condition = some true ↔ accepts row condition = true := by
  have affirmed := negatesOpen_of_negatedLeaves row condition h
  rw [truth_eq_some_iff, Bool.not_true, guessed_eq_accepts row condition affirmed]

end EstateSearch.Condition
