import EstateSearch.Proofs.Condition.Groups

/-!
# The leaves of conditions

The text matches and comparisons of a condition, from left to right. `allOf` and `negate` keep
them all (`leaves_allOf`, `leaves_negate`), and `anyOf` adds none (`leaves_anyOf_subset`): it drops
its members when one of them holds always by its form.
-/

set_option autoImplicit false

namespace EstateSearch.Condition

mutual

/-- The text matches and comparisons of a condition. -/
def leaves : Condition → List Condition
  | always => []
  | all members => leavesOfEach members
  | any members => leavesOfEach members
  | not condition => leaves condition
  | contains field needle => [contains field needle]
  | compare comparison field value => [compare comparison field value]

def leavesOfEach : List Condition → List Condition
  | [] => []
  | member :: others => leaves member ++ leavesOfEach others

end

theorem leavesOfEach_eq (members : List Condition) :
    leavesOfEach members = members.flatMap leaves := by
  induction members with
  | nil => rfl
  | cons member others ih => simp [leavesOfEach, ih]

@[simp]
theorem leaves_always : leaves always = [] := rfl

@[simp]
theorem leaves_all (members : List Condition) :
    leaves (all members) = members.flatMap leaves := leavesOfEach_eq members

@[simp]
theorem leaves_any (members : List Condition) :
    leaves (any members) = members.flatMap leaves := leavesOfEach_eq members

theorem flatMap_leaves_conjuncts (condition : Condition) :
    (conjuncts condition).flatMap leaves = leaves condition := by
  cases condition <;> simp [conjuncts]

theorem flatMap_leaves_alternatives (condition : Condition) :
    (alternatives condition).flatMap leaves = leaves condition := by
  cases condition <;> simp [alternatives]

/-- A group of one is its member, which has the same leaves. -/
theorem leaves_grouped {group : List Condition → Condition}
    (h : ∀ members, leaves (group members) = members.flatMap leaves) (members : List Condition) :
    leaves (grouped group members) = members.flatMap leaves := by
  unfold grouped
  split
  · rfl
  · simp
  · exact h members

@[simp]
theorem leaves_allOf (members : List Condition) :
    leaves (allOf members) = members.flatMap leaves := by
  rw [allOf, leaves_grouped leaves_all, List.flatMap_assoc]
  simp only [flatMap_leaves_conjuncts]

/-- A group of alternatives may lose leaves where a member always holds, but gains none. -/
theorem leaves_anyOf_subset (members : List Condition) :
    leaves (anyOf members) ⊆ members.flatMap leaves := by
  unfold anyOf
  split
  · simp [leaves]
  · rw [leaves_grouped leaves_any, List.flatMap_assoc]
    simp only [flatMap_leaves_alternatives]
    exact List.Subset.refl _

@[simp]
theorem leaves_negate (condition : Condition) : leaves (negate condition) = leaves condition := by
  cases condition <;> simp [negate, leaves]

end EstateSearch.Condition
