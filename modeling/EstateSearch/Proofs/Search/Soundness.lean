import EstateSearch.Proofs.Condition.Negated
import EstateSearch.Proofs.Search.Agreement

/-!
# Conditions of any form in a database

Conditions need not be searches, nor be put together in any particular way. Of a condition of any
form a database says nothing that is wrong in memory (`evaluates_soundly`): where it comes to a
verdict, the decision is the same. All that it may do is leave a row undecided, and this can only
matter where a comparison is negated.
-/

set_option autoImplicit false

namespace EstateSearch.Search

open Condition Sql

variable {db : Database}

/-- A condition looks in the given fields only, and for something. -/
def LooksIn (fields : List Field) (condition : Condition) : Prop :=
  ∀ field needle, contains field needle ∈ condition.leaves → field ∈ fields ∧ needle ≠ ""

/-- A standard database comes to no verdict on a row but the decision in memory. It accepts exactly
the rows that are accepted in memory if no comparison with a value stands under a negation. -/
theorem evaluates_soundly (standard : db.IsStandard) {condition : Condition} {fields : List Field}
    (looks : LooksIn fields condition) {row : Row} (texts : HoldsTexts row fields)
    (earlier : List Bind) :
    ∃ truth, (Fragment.ofCondition earlier.length condition).Evaluates db row earlier truth ∧
      (truth = some true → condition.accepts row = true) ∧
      (truth = some false → condition.accepts row = false) ∧
      (CompareWithMissing condition.negatedLeaves →
        (truth = some true ↔ condition.accepts row = true)) := by
  have finds : FindsAll db row condition.leaves := by
    intro field needle leaf
    obtain ⟨known, nonempty⟩ := looks field needle leaf
    exact texts.finds standard known nonempty
  refine ⟨condition.truth row, evaluates_ofCondition standard finds earlier, ?_, ?_, ?_⟩
  · exact accepts_of_truth row
  · exact accepts_of_truth row
  · exact truth_eq_true_iff row

/-- A negated group that compares with a missing value, and a property of which nothing is known. -/
theorem evaluates_soundly_blank :
    let condition := all [.not (any [contains .title "vue", compare .equal .city .missing]),
      compare .atLeast .bedrooms (.integer 3)]
    Database.reference.IsStandard ∧ LooksIn [.title] condition ∧
      HoldsTexts Property.blank.row [.title] ∧ CompareWithMissing condition.negatedLeaves ∧
      ∃ truth, (Fragment.ofCondition 0 condition).Evaluates .reference Property.blank.row [] truth ∧
        (truth = some true → condition.accepts Property.blank.row = true) ∧
        (truth = some false → condition.accepts Property.blank.row = false) ∧
        (CompareWithMissing condition.negatedLeaves →
          (truth = some true ↔ condition.accepts Property.blank.row = true)) := by
  intro condition
  have standard := Database.reference_isLenient.toIsStandard
  have listed : condition.leaves = [contains .title "vue", compare .equal .city .missing,
      compare .atLeast .bedrooms (.integer 3)] := rfl
  have negated : condition.negatedLeaves =
      [contains .title "vue", compare .equal .city .missing] := rfl
  have looks : LooksIn [.title] condition := by simp [LooksIn, listed]
  have texts : HoldsTexts Property.blank.row [.title] := by
    intro field belongs
    obtain rfl := List.mem_singleton.1 belongs
    exact ⟨none, rfl⟩
  have missing : CompareWithMissing condition.negatedLeaves := by
    simp [CompareWithMissing, negated]
  exact ⟨standard, looks, texts, missing, evaluates_soundly standard looks texts []⟩

end EstateSearch.Search
