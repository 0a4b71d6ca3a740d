import EstateSearch.Json.Number
import EstateSearch.Proofs.Binary64.Rounding

/-!
# Reading back numbers in JSON

Every integer of 64 bits is read back from the numeral that is written for it
(`int64?_numeralOfInt`). A binary64 number that is read is finite (`isFinite_of_binary64?`), so it
has a numeral. Reading is not correctly rounded, so that this numeral is read as the same number is
a property of the number (`IsReread`).
-/

set_option autoImplicit false

namespace EstateSearch.Json

open Decimal

theorem integer?_numeralOfInt (i : Int) : integer? (numeralOfInt i) = some i := by
  have size : ((valueOf (digits i.natAbs) : Nat) : Int) = i.natAbs := by rw [valueOf_digits]
  have plain : ((numeralOfInt i).fraction.isEmpty && (numeralOfInt i).exponent.isNone) = true := rfl
  rw [integer?, if_pos plain]
  simp only [numeralOfInt, size]
  by_cases negative : i < 0
  · have nonzero : (i.natAbs : Int) ≠ 0 := by omega
    have value : -(i.natAbs : Int) = i := by omega
    simp only [negative, decide_true, if_true, nonzero, if_false, value]
  · have value : (i.natAbs : Int) = i := by omega
    simp only [negative, decide_false, Bool.false_eq_true, if_false, value]

/-- Every integer of 64 bits is read back. -/
theorem int64?_numeralOfInt (i : Int64) : int64? (numeralOfInt i.toInt) = some i := by
  have inRange : (Int64.minValue.toInt ≤ i.toInt && i.toInt ≤ Int64.maxValue.toInt) = true := by
    have low := Int64.le_toInt i
    have high := Int64.toInt_lt i
    have bounds : Int64.minValue.toInt = -2 ^ 63 ∧ Int64.maxValue.toInt = 2 ^ 63 - 1 := by decide
    rw [bounds.1, bounds.2, Bool.and_eq_true, decide_eq_true_iff, decide_eq_true_iff]
    omega
  rw [int64?, integer?_numeralOfInt, Option.bind_eq_bind, Option.bind_some, if_pos inRange,
    Int64.ofInt_toInt]

/-- The finite number is read back from the numeral that is written for it. -/
def IsReread (x : Binary64) : Prop := binary64? (numberLayout.numeral x) = some x

instance (x : Binary64) : Decidable (IsReread x) := inferInstanceAs (Decidable (_ = _))

/-! ### Finite numbers -/

/-- The digits are cut off before the number leaves 64 bits. -/
theorem appendDigits_lt {significand : Nat} (h : significand < UInt64.size) (ds : List Digit) :
    (appendDigits significand ds).1 < UInt64.size := by
  fun_induction appendDigits significand ds with
  | case1 => exact h
  | case2 significand d ds next fits ih => exact ih fits
  | case3 => exact h

theorem scaledDigits_lt (n : Numeral) : (scaledDigits n).1 < UInt64.size := by
  simp only [scaledDigits]
  exact appendDigits_lt (appendDigits_lt (by decide) _) _

/-- The powers of ten that are multiplied or divided by are at least 1. -/
theorem le_powerOfTen {power : Nat} (h : power ≤ greatestPower) :
    (Binary64.ofDecimal false 1 power).toRatio.2 ≤ (Binary64.ofDecimal false 1 power).toRatio.1 ∧
      0 < (Binary64.ofDecimal false 1 power).toRatio.2 := by
  have all : ∀ power : Fin (greatestPower + 1),
      (Binary64.ofDecimal false 1 power.val).toRatio.2 ≤
        (Binary64.ofDecimal false 1 power.val).toRatio.1 ∧
      0 < (Binary64.ofDecimal false 1 power.val).toRatio.2 := by decide +kernel
  exact all ⟨power, Nat.lt_succ_of_le h⟩

/-- Numbers out of range are refused while powers of ten are multiplied in. -/
theorem isFinite_scale? {x y : Binary64} {power : Int} (finite : x.isFinite = true)
    (h : scale? x power = some y) : y.isFinite = true := by
  fun_induction scale? x power with
  | case1 x power near factor up product inRange =>
    obtain rfl := Option.some.inj h
    exact inRange
  | case2 => cases h
  | case3 x power near factor down =>
    obtain rfl := Option.some.inj h
    obtain ⟨large, positive⟩ := le_powerOfTen near
    exact Binary64.isFinite_dividedBy finite large positive
  | case4 x power far zero =>
    obtain rfl := Option.some.inj h
    exact finite
  | case5 => cases h
  | case6 x power far nonzero down ih =>
    obtain ⟨large, positive⟩ := le_powerOfTen (le_refl greatestPower)
    exact ih (Binary64.isFinite_dividedBy finite large positive) h

/-- A numeral too large for a finite number is refused, so none is read as an infinity. -/
theorem isFinite_magnitude? {n : Numeral} {x : Binary64} (h : magnitude? n = some x) :
    x.isFinite = true := by
  have small := scaledDigits_lt n
  simp only [magnitude?] at h
  split at h
  · split at h
    · cases h
    · obtain rfl := Option.some.inj h
      decide
  · refine isFinite_scale? (Binary64.isFinite_ofRatio _ one_pos ?_) h
    have greatest : UInt64.size ≤ Binary64.greatest := by decide +kernel
    rw [Int.natAbs_natCast, Nat.mul_one]
    omega

/-- A number that is read is finite. -/
theorem isFinite_of_binary64? {n : Numeral} {x : Binary64} (h : binary64? n = some x) :
    x.isFinite = true := by
  obtain ⟨size, read, rfl⟩ := Option.map_eq_some_iff.1 h
  have finite := isFinite_magnitude? read
  cases negative : n.negative with
  | true => exact Binary64.isFinite_negate finite
  | false => exact finite

end EstateSearch.Json
