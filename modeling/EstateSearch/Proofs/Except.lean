import EstateSearch.Problem

/-!
# Steps that may fail

What it takes for a sequence of steps to succeed, and for a step whose errors are put into other
words. The checks on criteria, the commands and the readers of settings all run such steps.
-/

set_option autoImplicit false

namespace EstateSearch

variable {ε ε' α β : Type} {step : Except ε α}

/-- A sequence succeeds just if its first step does and the rest does with what it gives. -/
theorem bind_eq_ok_iff {rest : α → Except ε β} {b : β} :
    (step >>= rest) = .ok b ↔ ∃ a, step = .ok a ∧ rest a = .ok b := by
  cases step with
  | error problem => simp [bind, Except.bind]
  | ok a => simp [bind, Except.bind]

theorem mapError_eq_ok_iff {wrap : ε → ε'} {value : α} :
    step.mapError wrap = .ok value ↔ step = .ok value := by
  cases step with
  | ok value' =>
    rw [Except.ok.injEq]
    exact ⟨Except.ok.inj, congrArg _⟩
  | error cause => exact iff_of_false nofun nofun

theorem mapError_eq_error_iff {wrap : ε → ε'} {problem : ε'} :
    step.mapError wrap = .error problem ↔ ∃ cause, step = .error cause ∧ wrap cause = problem := by
  cases step with
  | ok value =>
    refine iff_of_false nofun ?_
    rintro ⟨cause, failed, -⟩
    cases failed
  | error cause =>
    constructor
    · intro failed
      exact ⟨cause, rfl, Except.error.inj failed⟩
    · rintro ⟨cause', failed, rfl⟩
      rw [← Except.error.inj failed]
      rfl

end EstateSearch
