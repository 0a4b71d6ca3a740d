import EstateSearch.Proofs.Condition.Shape
import EstateSearch.Proofs.Sql.Clause

/-!
# The text of a fragment shows the shape only

Needles and values go into the binds and never into the text. Conditions of the same shape have the
same clause (`clause_eq_of_sameShape`) and so the same text (`text_eq_of_sameShape`).

Placeholders are numbered through, so the text of a member depends on the number of binds before it.
That number is a matter of shape too, which the induction carries along.
-/

set_option autoImplicit false

namespace EstateSearch.Sql

open Condition

variable {pairs : List (Condition × Condition)}

theorem length_bindsOfEach_eq
    (h : ∀ pair ∈ pairs, (binds pair.1).length = (binds pair.2).length) :
    (bindsOfEach (pairs.map Prod.fst)).length = (bindsOfEach (pairs.map Prod.snd)).length := by
  induction pairs with
  | nil => rfl
  | cons pair pairs ih =>
    rw [List.forall_mem_cons] at h
    simp only [List.map_cons, bindsOfEach, List.length_append, h.1, ih h.2]

theorem clauseOfEach_eq (lengths : ∀ pair ∈ pairs, (binds pair.1).length = (binds pair.2).length)
    (clauses : ∀ pair ∈ pairs, ∀ offset, clause offset pair.1 = clause offset pair.2)
    (offset : Nat) :
    clauseOfEach offset (pairs.map Prod.fst) = clauseOfEach offset (pairs.map Prod.snd) := by
  induction pairs generalizing offset with
  | nil => rfl
  | cons pair pairs ih =>
    rw [List.forall_mem_cons] at lengths clauses
    simp only [List.map_cons, clauseOfEach, lengths.1, clauses.1, ih lengths.2 clauses.2]

/-- Conditions of the same shape have the same number of binds and the same clause, from whatever
number on the placeholders are numbered. -/
theorem clause_eq_of_sameShape {condition other : Condition} (h : SameShape condition other) :
    (binds condition).length = (binds other).length ∧
      ∀ offset, clause offset condition = clause offset other := by
  induction h with
  | always => exact ⟨rfl, fun _ => rfl⟩
  | all h ih =>
    have lengths := fun pair belongs => (ih pair belongs).1
    have clauses := fun pair belongs => (ih pair belongs).2
    exact ⟨length_bindsOfEach_eq lengths, fun offset => by
      rw [clause_all, clause_all, clauseOfEach_eq lengths clauses]⟩
  | any h ih =>
    have lengths := fun pair belongs => (ih pair belongs).1
    have clauses := fun pair belongs => (ih pair belongs).2
    exact ⟨length_bindsOfEach_eq lengths, fun offset => by
      rw [clause_any, clause_any, clauseOfEach_eq lengths clauses]⟩
  | not h ih => exact ⟨ih.1, fun offset => by rw [clause, clause, ih.2]⟩
  | contains field needle needle' => exact ⟨rfl, fun _ => rfl⟩
  -- Only whether a value is missing decides if a placeholder is taken.
  | @compare comparison field value value' missing =>
    have unbound : Bind.ofValue? value = none ↔ Bind.ofValue? value' = none := by
      rw [Bind.ofValue?_eq_none_iff, Bind.ofValue?_eq_none_iff, missing]
    cases bound : Bind.ofValue? value with
    | none =>
      have bound' := unbound.1 bound
      exact ⟨by rw [binds, binds, bound, bound'], fun offset => by rw [clause, clause, bound, bound']⟩
    | some bind =>
      obtain ⟨bind', bound'⟩ : ∃ bind', Bind.ofValue? value' = some bind' :=
        Option.ne_none_iff_exists'.1 fun none => by simp [unbound.2 none] at bound
      exact ⟨by simp [binds, bound, bound'], fun offset => by rw [clause, clause, bound, bound']⟩

/-- Conditions of one shape have the same text, whatever they look for. -/
theorem text_eq_of_sameShape {condition other : Condition} (h : SameShape condition other)
    (offset : Nat) :
    (Fragment.ofCondition offset condition).text = (Fragment.ofCondition offset other).text := by
  rw [Fragment.ofCondition_eq, Fragment.ofCondition_eq, (clause_eq_of_sameShape h).2]

end EstateSearch.Sql
