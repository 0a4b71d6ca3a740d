import EstateSearch.Binary64
import Mathlib.Algebra.Order.Field.Power
import Mathlib.Tactic.Linarith
import Mathlib.Tactic.NormNum
import Mathlib.Tactic.Ring

/-!
# Which quotients round to finite numbers

A quotient up to the greatest finite number rounds to a finite one (`isFinite_ofRatio`), so a finite
number stays finite when it is divided by one that is at least 1 (`isFinite_dividedBy`).

The exponent of a quotient is chosen so that its significand has at most 53 bits
(`lt_exponentFor`). Sizes are compared in the rational numbers, where a power of two may have a
negative exponent (`scaled_le_iff`).
-/

set_option autoImplicit false

namespace EstateSearch.Binary64

def greatest : Nat := (2 ^ 53 - 1) * 2 ^ 971

/-! ### Magnitudes -/

theorem magnitude_ofMagnitude (negative : Bool) {m : Nat} (h : m < 2 ^ 63) :
    (ofMagnitude negative m).magnitude = m := by
  have power : Nat.pow 2 63 = 2 ^ 63 := rfl
  rw [magnitude, ofMagnitude, UInt64.toNat_ofNat', power]
  cases negative
  · rw [if_neg (by decide)]
    omega
  · rw [if_pos rfl]
    omega

theorem isFinite_ofMagnitude (negative : Bool) {m : Nat} (h : m < infinityBits) :
    (ofMagnitude negative m).isFinite = true := by
  have small : m < 2 ^ 63 := h.trans (by decide)
  rw [isFinite, magnitude_ofMagnitude negative small, decide_eq_true_iff]
  exact h

theorem isFinite_negate {x : Binary64} (h : x.isFinite = true) : x.negate.isFinite = true :=
  isFinite_ofMagnitude _ (of_decide_eq_true h)

/-! ### The exponent of a quotient -/

/-- A quotient that stays below an integer is not rounded past it. -/
theorem divideToEven_le {num den k : Nat} (positive : 0 < den) (h : num ≤ k * den) :
    divideToEven num den ≤ k := by
  have whole : num / den * den + num % den = num := Nat.div_add_mod' num den
  rw [divideToEven]
  split
  · rename_i up
    have rest : 0 < num % den := by
      rw [Nat.pos_iff_ne_zero]
      intro none
      rw [none] at up
      simp at up
      omega
    have below : num / den * den < k * den := by omega
    exact Nat.lt_of_mul_lt_mul_right below
  · exact Nat.div_le_of_le_mul (by rwa [Nat.mul_comm])

variable {num den : Nat}

/-- Scaling moves the power of two to one side of the fraction; the quotient is the exact one. -/
theorem exists_scaled_eq (num den : Nat) (e : Int) :
    ∃ c : ℚ, 0 < c ∧ ((scaled num den e).1 : ℚ) = num * c ∧
      ((scaled num den e).2 : ℚ) = den * 2 ^ e * c := by
  obtain ⟨m, rfl | rfl⟩ := e.eq_nat_or_neg
  · refine ⟨1, one_pos, ?_, ?_⟩
    · simp [scaled]
    · simp [scaled]
  · refine ⟨2 ^ m, by positivity, ?_, ?_⟩
    · simp [scaled]
    · simp [scaled]

theorem scaled_pos (positive : 0 < den) (e : Int) : 0 < (scaled num den e).2 :=
  Nat.mul_pos positive (Nat.pow_pos (by decide))

/-- A bound on the scaled fraction is a bound on the quotient itself. -/
theorem scaled_le_iff (k : Nat) (e : Int) :
    (scaled num den e).1 ≤ k * (scaled num den e).2 ↔ (num : ℚ) ≤ k * 2 ^ e * den := by
  obtain ⟨c, positive, first, second⟩ := exists_scaled_eq num den e
  have swap : (k : ℚ) * (den * 2 ^ e * c) = k * 2 ^ e * den * c := by ring
  rw [← Nat.cast_le (α := ℚ), Nat.cast_mul, first, second, swap, mul_le_mul_iff_left₀ positive]

theorem le_scaled_iff (k : Nat) (e : Int) :
    k * (scaled num den e).2 ≤ (scaled num den e).1 ↔ (k : ℚ) * 2 ^ e * den ≤ num := by
  obtain ⟨c, positive, first, second⟩ := exists_scaled_eq num den e
  have swap : (k : ℚ) * (den * 2 ^ e * c) = k * 2 ^ e * den * c := by ring
  rw [← Nat.cast_le (α := ℚ), Nat.cast_mul, first, second, swap, mul_le_mul_iff_left₀ positive]

/-- The exponent at which the significand of a quotient has 53 bits, or one less. -/
def guess (num den : Nat) : Int := (num.log2 : Int) - (den.log2 : Int) - 52

/-- The guess from the lengths in bits is corrected by at most one, and never below the least
exponent. -/
theorem exponentFor_eq (num den : Nat) :
    exponentFor num den =
      max (if (scaled num den (guess num den)).1 / (scaled num den (guess num den)).2 < 2 ^ 52
        then guess num den - 1 else guess num den) (-1074) := rfl

/-- At the guessed exponent the significand does not pass `2 ^ 53`. -/
theorem le_guess (positive : 0 < den) :
    (num : ℚ) ≤ 2 ^ 53 * 2 ^ guess num den * den := by
  have top : num ≤ 2 ^ (num.log2 + 1) := Nat.lt_log2_self.le
  have bottom : 2 ^ den.log2 ≤ den := Nat.log2_self_le positive.ne'
  have split : (2 : ℚ) ^ (num.log2 + 1) = 2 ^ 53 * 2 ^ guess num den * 2 ^ den.log2 := by
    have exponents : ((num.log2 + 1 : Nat) : Int) = 53 + guess num den + den.log2 := by
      rw [guess]
      omega
    rw [← zpow_natCast, exponents, zpow_add₀ two_ne_zero, zpow_add₀ two_ne_zero, zpow_natCast]
    rfl
  calc (num : ℚ) ≤ 2 ^ (num.log2 + 1) := by exact_mod_cast top
    _ = 2 ^ 53 * 2 ^ guess num den * 2 ^ den.log2 := split
    _ ≤ 2 ^ 53 * 2 ^ guess num den * den := by
      have bottom' : (2 : ℚ) ^ den.log2 ≤ den := by exact_mod_cast bottom
      gcongr

theorem two_zpow_sub_one (e : Int) : (2 : ℚ) ^ 53 * 2 ^ (e - 1) = 2 ^ 52 * 2 ^ e := by
  rw [zpow_sub_one₀ two_ne_zero]
  ring

/-- The significand of a quotient has at most 53 bits before it is rounded. -/
theorem le_exponentFor (positive : 0 < den) :
    (num : ℚ) ≤ 2 ^ 53 * 2 ^ exponentFor num den * den := by
  have before : (num : ℚ) ≤ 2 ^ 53 * 2 ^ (if (scaled num den (guess num den)).1 /
      (scaled num den (guess num den)).2 < 2 ^ 52
        then guess num den - 1 else guess num den) * den := by
    split
    · rename_i small
      have below : (scaled num den (guess num den)).1 ≤
          2 ^ 52 * (scaled num den (guess num den)).2 :=
        ((Nat.div_lt_iff_lt_mul (scaled_pos positive _)).1 small).le
      rw [two_zpow_sub_one]
      have bound := (scaled_le_iff _ _).1 below
      exact_mod_cast bound
    · exact le_guess positive
  refine before.trans ?_
  rw [exponentFor_eq]
  have monotone := zpow_le_zpow_right₀ (one_le_two (α := ℚ))
    (le_max_left (if (scaled num den (guess num den)).1 /
      (scaled num den (guess num den)).2 < 2 ^ 52
        then guess num den - 1 else guess num den) (-1074))
  gcongr

/-- Below `2 ^ 1024` the guess passes the last exponent by one at most. -/
theorem guess_le (h : num < 2 ^ 1024 * den) : guess num den ≤ 972 := by
  have top : den < 2 ^ (den.log2 + 1) := Nat.lt_log2_self
  have size : num < 2 ^ (1024 + den.log2 + 1) :=
    calc num < 2 ^ 1024 * den := h
      _ ≤ 2 ^ 1024 * 2 ^ (den.log2 + 1) := Nat.mul_le_mul_left _ top.le
      _ = 2 ^ (1024 + den.log2 + 1) := by rw [← pow_add, Nat.add_assoc]
  have bits : num.log2 < 1024 + den.log2 + 1 := by
    by_cases zero : num = 0
    · rw [zero, Nat.log2_zero]
      omega
    · exact (Nat.log2_lt zero).2 size
  rw [guess]
  omega

/-- A quotient below the power of two behind the greatest finite number has the exponent of a finite
number. -/
theorem exponentFor_le (positive : 0 < den) (h : num < 2 ^ 1024 * den) :
    exponentFor num den ≤ 971 := by
  have most := guess_le h
  rw [exponentFor_eq]
  refine max_le ?_ (by decide)
  split
  · omega
  · rename_i large
    by_contra above
    -- A guess of 972 that needs no correction would put the quotient at `2 ^ 1024` or above.
    have exact : guess num den = 972 := by omega
    rw [exact, Nat.not_lt, Nat.le_div_iff_mul_le (scaled_pos positive _)] at large
    have reached := (le_scaled_iff _ _).1 large
    have power : ((2 ^ 52 : Nat) : ℚ) * 2 ^ (972 : Int) = 2 ^ 1024 := by
      rw [Nat.cast_pow, Nat.cast_ofNat]
      exact (pow_add (2 : ℚ) 52 972).symm
    have below : (num : ℚ) < 2 ^ 1024 * den := by exact_mod_cast h
    rw [power] at reached
    exact absurd (reached.trans_lt below) (lt_irrefl _)

/-! ### Rounded quotients -/

/-- A quotient up to the greatest finite number rounds to a finite number. -/
theorem isFinite_ofRatio (negative : Bool) (positive : 0 < den) (h : num ≤ greatest * den) :
    (ofRatio negative num den).isFinite = true := by
  rw [ofRatio]
  split
  · exact isFinite_ofMagnitude negative (by decide)
  · refine isFinite_ofMagnitude negative ((min_le_left _ _).trans_lt ?_)
    have below : num < 2 ^ 1024 * den :=
      h.trans_lt (Nat.mul_lt_mul_of_pos_right (by decide +kernel) positive)
    have exponent := exponentFor_le positive below
    have bits : divideToEven (scaled num den (exponentFor num den)).1
        (scaled num den (exponentFor num den)).2 ≤ 2 ^ 53 := by
      refine divideToEven_le (scaled_pos positive _) ((scaled_le_iff _ _).2 ?_)
      exact_mod_cast le_exponentFor positive
    -- At the greatest exponent rounding up to 54 bits would give infinity.
    have last : exponentFor num den = 971 →
        divideToEven (scaled num den (exponentFor num den)).1
          (scaled num den (exponentFor num den)).2 ≤ 2 ^ 53 - 1 := by
      intro last
      refine divideToEven_le (scaled_pos positive _) ((scaled_le_iff _ _).2 ?_)
      rw [last]
      exact_mod_cast h
    have hidden : Nat.pow 2 52 = 4503599627370496 := rfl
    change (exponentFor num den + 1074).toNat * Nat.pow 2 52 +
      divideToEven (scaled num den (exponentFor num den)).1
        (scaled num den (exponentFor num den)).2 < infinityBits
    rw [hidden, infinityBits]
    omega

/-! ### Operations on finite numbers -/

/-- Significands and exponents in range make no more than the greatest number. -/
theorem mul_pow_le_greatest {m e : Nat} (significand : m ≤ 2 ^ 53 - 1) (exponent : e ≤ 971) :
    m * Nat.pow 2 e ≤ greatest := by
  have split : greatest = (2 ^ 53 - 1) * 2 ^ e * 2 ^ (971 - e) := by
    rw [greatest, mul_assoc, ← pow_add, Nat.add_sub_cancel' exponent]
  rw [split]
  calc m * Nat.pow 2 e ≤ (2 ^ 53 - 1) * 2 ^ e := Nat.mul_le_mul_right _ significand
    _ ≤ (2 ^ 53 - 1) * 2 ^ e * 2 ^ (971 - e) := Nat.le_mul_of_pos_right _ (Nat.two_pow_pos _)

/-- A finite number is at most the greatest one. -/
theorem toRatio_le {x : Binary64} (h : x.isFinite = true) :
    x.toRatio.1 ≤ greatest * x.toRatio.2 ∧ 0 < x.toRatio.2 := by
  have small : x.magnitude < infinityBits := of_decide_eq_true h
  have hidden : Nat.pow 2 52 = 4503599627370496 := rfl
  rw [infinityBits] at small
  have exponent : x.exponent ≤ 971 := by
    rw [exponent, exponentField, hidden]
    omega
  have significand : x.significand ≤ 2 ^ 53 - 1 := by
    rw [significand, exponentField, hidden]
    split <;> omega
  have positive : 0 < x.toRatio.2 := Nat.pow_pos (by decide)
  refine ⟨?_, positive⟩
  calc x.toRatio.1 ≤ greatest := mul_pow_le_greatest significand (by omega)
    _ ≤ greatest * x.toRatio.2 := Nat.le_mul_of_pos_right _ positive

/-- A finite number that is divided by one that is at least 1 stays finite. -/
theorem isFinite_dividedBy {x y : Binary64} (h : x.isFinite = true)
    (large : y.toRatio.2 ≤ y.toRatio.1) (positive : 0 < y.toRatio.2) :
    (x.dividedBy y).isFinite = true := by
  obtain ⟨bound, positive'⟩ := toRatio_le h
  refine isFinite_ofRatio _ (Nat.mul_pos positive' (positive.trans_le large)) ?_
  calc x.toRatio.1 * y.toRatio.2 ≤ greatest * x.toRatio.2 * y.toRatio.1 :=
        Nat.mul_le_mul bound large
    _ = greatest * (x.toRatio.2 * y.toRatio.1) := Nat.mul_assoc _ _ _

end EstateSearch.Binary64
