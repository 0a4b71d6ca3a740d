import EstateSearch.Proofs.Condition.Groups
import EstateSearch.Proofs.Value.Order

/-!
# Ranges from a value to itself

Equality and the two bounds of a range are decided by two different tables over pairs of values. The
tables fit together: a field lies in the range from a value to itself just if it is level with the
value (`accepts_point_iff`), and this is equality for every value but the truth values, which are
equal to themselves and have no order (`point_range_iff`). What is no number and what is missing has
neither.
-/

set_option autoImplicit false

namespace EstateSearch

/-- A value meets both bounds if it is level with them. -/
theorem Comparison.holds_bounds_iff {held value : Value} :
    atLeast.holds held value = true ∧ atMost.holds held value = true ↔
      held.order? value = some .eq := by
  rw [holds, holds]
  cases held.order? value with
  | none => simp
  | some order => cases order <;> simp

namespace Condition

/-- From a value to the same value there is only what stands level with it. -/
theorem accepts_point_iff (row : Row) (field : Field) (value : Value) :
    (allOf [atLeast field value, atMost field value]).accepts row = true ↔
      (row field).order? value = some .eq := by
  rw [accepts_allOf, ← Comparison.holds_bounds_iff]
  simp [atLeast, atMost, accepts]

/-- What is equal stands level, except that truth values are equal without any order. -/
theorem accepts_equal_iff (row : Row) (field : Field) (value : Value) :
    (equal field value).accepts row = true ↔
      (row field).order? value = some .eq ∨ ∃ b, row field = .boolean b ∧ .boolean b = value :=
  Value.equals_iff

/-- The range from a value to itself accepts the records that equality with the value accepts, just
if the value is no truth value. It does not matter which of two values is compared with the other:
they are equal both ways or neither way, and the order the other way is the opposite one, if there
is one. -/
theorem point_range_iff (value : Value) :
    ((∀ row field, (allOf [atLeast field value, atMost field value]).accepts row =
        (equal field value).accepts row) ↔ ∀ b, value ≠ .boolean b) ∧
      ∀ a b : Value, a.equals b = b.equals a ∧ a.order? b = (b.order? a).map Ordering.swap := by
  refine ⟨⟨?_, ?_⟩, fun a b => ⟨Value.equals_comm a b, Value.order?_swap b a⟩⟩
  · rintro agree b rfl
    have active : (equal .active (.boolean b)).accepts (fun _ => .boolean b) = true :=
      (accepts_equal_iff _ _ _).2 (.inr ⟨b, rfl, rfl⟩)
    rw [← agree, accepts_point_iff] at active
    cases active
  · intro notBoolean row field
    rw [Bool.eq_iff_iff, accepts_point_iff, accepts_equal_iff, or_iff_left]
    rintro ⟨b, -, same⟩
    exact notBoolean b same.symm

/-- What is no number lies in no range, and nothing equals it. -/
theorem point_range_iff_notANumber :
    (∀ b, Value.number .notANumber ≠ .boolean b) ∧
      ∀ row field, (allOf [atLeast field (.number .notANumber),
          atMost field (.number .notANumber)]).accepts row =
        (equal field (.number .notANumber)).accepts row := by
  have notBoolean : ∀ b, Value.number .notANumber ≠ .boolean b := by simp
  exact ⟨notBoolean, (point_range_iff _).1.2 notBoolean⟩

end Condition

end EstateSearch
