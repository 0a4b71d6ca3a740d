import EstateSearch.Proofs.Binary64.Rounding

/-!
# Integers as numbers

Rounding integers to numbers keeps their order (`rank_ofInt_mono`), but it may make one number of
two integers. This does not happen up to `2 ^ 53` in size (`rank_ofInt_lt`).

The pattern of a rounded integer is its exponent above its rounded significand (`integerPattern`).
Of two integers with the same exponent the significands decide. Otherwise the lower one reaches at
most the first pattern of the next exponent, even if its significand is rounded up
(`integerPattern_mono`).
-/

set_option autoImplicit false

namespace EstateSearch.Binary64

/-! ### Rounded quotients -/

theorem le_divideToEven {num den k : Nat} (positive : 0 < den) (h : k * den ≤ num) :
    k ≤ divideToEven num den := by
  have floor : k ≤ num / den := (Nat.le_div_iff_mul_le positive).2 h
  rw [divideToEven]
  split <;> omega

/-- Rounding to the even neighbour keeps the order. -/
theorem divideToEven_mono {num num' : Nat} (den : Nat) (h : num ≤ num') :
    divideToEven num den ≤ divideToEven num' den := by
  have floor : num / den ≤ num' / den := Nat.div_le_div_right h
  have whole : num / den * den + num % den = num := Nat.div_add_mod' num den
  have whole' : num' / den * den + num' % den = num' := Nat.div_add_mod' num' den
  rcases floor.eq_or_lt with same | lower
  · have rest : num % den ≤ num' % den := by
      rw [same] at whole
      omega
    simp only [divideToEven, same, Bool.or_eq_true, decide_eq_true_eq, Bool.and_eq_true, beq_iff_eq]
    split <;> split <;> omega
  · simp only [divideToEven]
    split <;> split <;> omega

theorem divideToEven_one (num : Nat) : divideToEven num 1 = num :=
  Nat.le_antisymm (divideToEven_le one_pos (by omega)) (le_divideToEven one_pos (by omega))

/-! ### The significand of an integer -/

variable {n n' : Nat}

/-- A positive integer with a significand of 53 bits, before it is rounded. -/
theorem scaled_integer (n : Nat) :
    scaled n 1 (n.log2 - 52) = (n * 2 ^ (52 - n.log2), 2 ^ (n.log2 - 52)) := by
  have up : (-((n.log2 : Int) - 52)).toNat = 52 - n.log2 := by omega
  have down : ((n.log2 : Int) - 52).toNat = n.log2 - 52 := by omega
  rw [scaled, up, down, Nat.one_mul]
  rfl

theorem le_scaled_integer (positive : n ≠ 0) :
    2 ^ 52 * 2 ^ (n.log2 - 52) ≤ n * 2 ^ (52 - n.log2) := by
  have exponents : 52 + (n.log2 - 52) = n.log2 + (52 - n.log2) := by omega
  calc 2 ^ 52 * 2 ^ (n.log2 - 52) = 2 ^ n.log2 * 2 ^ (52 - n.log2) := by
        rw [← pow_add, ← pow_add, exponents]
    _ ≤ n * 2 ^ (52 - n.log2) := Nat.mul_le_mul_right _ (Nat.log2_self_le positive)

theorem scaled_integer_lt (n : Nat) :
    n * 2 ^ (52 - n.log2) < 2 ^ 53 * 2 ^ (n.log2 - 52) := by
  have exponents : n.log2 + 1 + (52 - n.log2) = 53 + (n.log2 - 52) := by omega
  calc n * 2 ^ (52 - n.log2) < 2 ^ (n.log2 + 1) * 2 ^ (52 - n.log2) :=
        Nat.mul_lt_mul_of_pos_right Nat.lt_log2_self (Nat.two_pow_pos _)
    _ = 2 ^ 53 * 2 ^ (n.log2 - 52) := by rw [← pow_add, ← pow_add, exponents]

/-- The significand of an integer gets its 53 bits by the integer's length in bits alone. -/
theorem exponentFor_integer (positive : n ≠ 0) : exponentFor n 1 = n.log2 - 52 := by
  have start : guess n 1 = n.log2 - 52 := by
    have one : Nat.log2 1 = 0 := by decide
    rw [guess, one]
    omega
  have large : 2 ^ 52 ≤ n * 2 ^ (52 - n.log2) / 2 ^ (n.log2 - 52) :=
    (Nat.le_div_iff_mul_le (Nat.two_pow_pos _)).2 (le_scaled_integer positive)
  rw [exponentFor_eq, start, scaled_integer, if_neg (Nat.not_lt.2 large)]
  omega

def integerSignificand (n : Nat) : Nat :=
  divideToEven (n * 2 ^ (52 - n.log2)) (2 ^ (n.log2 - 52))

/-- The significand of an integer always has its leading bit. -/
theorem le_integerSignificand (positive : n ≠ 0) : 2 ^ 52 ≤ integerSignificand n :=
  le_divideToEven (Nat.two_pow_pos _) (le_scaled_integer positive)

/-- Rounding may reach `2 ^ 53`, which has one bit too many for a significand. -/
theorem integerSignificand_le (n : Nat) : integerSignificand n ≤ 2 ^ 53 :=
  divideToEven_le (Nat.two_pow_pos _) (scaled_integer_lt n).le

/-- Integers below `2 ^ 53` need no rounding. -/
theorem integerSignificand_eq (small : n.log2 ≤ 52) :
    integerSignificand n = n * 2 ^ (52 - n.log2) := by
  rw [integerSignificand, Nat.sub_eq_zero_of_le small, pow_zero, divideToEven_one]

/-! ### The pattern of an integer -/

def integerPattern (n : Nat) : Nat := (n.log2 + 1022) * 2 ^ 52 + integerSignificand n

theorem log2_mono (positive : n ≠ 0) (h : n ≤ n') : n.log2 ≤ n'.log2 :=
  (Nat.le_log2 (by omega)).2 ((Nat.log2_self_le positive).trans h)

/-- Patterns grow with the integers they are made of, also where rounding carries into the
exponent. -/
theorem integerPattern_mono (positive : n ≠ 0) (h : n ≤ n') :
    integerPattern n ≤ integerPattern n' := by
  rw [integerPattern, integerPattern]
  rcases (log2_mono positive h).eq_or_lt with same | lower
  · have significands : integerSignificand n ≤ integerSignificand n' := by
      rw [integerSignificand, integerSignificand, same]
      exact divideToEven_mono _ (Nat.mul_le_mul_right _ h)
    omega
  · -- A significand that is rounded up to 54 bits gives the first pattern of the next exponent.
    have most := integerSignificand_le n
    have least := le_integerSignificand (n := n') (by omega)
    omega

/-- Up to `2 ^ 53` no two integers have the same pattern. -/
theorem integerPattern_lt (positive : n ≠ 0) (h : n < n') (small : n' ≤ 2 ^ 53) :
    integerPattern n < integerPattern n' := by
  have short : n.log2 ≤ 52 := by
    have below : n.log2 < 53 := (Nat.log2_lt positive).2 (h.trans_le small)
    omega
  rw [integerPattern, integerPattern]
  rcases (log2_mono positive h.le).eq_or_lt with same | lower
  · have significands : integerSignificand n < integerSignificand n' := by
      rw [integerSignificand_eq short, integerSignificand_eq (same ▸ short), same]
      exact Nat.mul_lt_mul_of_pos_right h (Nat.two_pow_pos _)
    omega
  · have most : integerSignificand n < 2 ^ 53 := by
      have bound := scaled_integer_lt n
      rwa [Nat.sub_eq_zero_of_le short, pow_zero, Nat.mul_one, ← integerSignificand_eq short]
        at bound
    have least := le_integerSignificand (n := n') (by omega)
    omega

/-- The pattern of the number that is nearest to a natural number. -/
def integerMagnitude (n : Nat) : Nat :=
  if n = 0 then 0 else min (integerPattern n) infinityBits

/-- The number of an integer is its sign and the pattern of its absolute value. -/
theorem ofInt_eq (i : Int) : ofInt i = ofMagnitude (i < 0) (integerMagnitude i.natAbs) := by
  rw [ofInt, ofRatio, integerMagnitude]
  split
  · rfl
  · rename_i positive
    have field : ((i.natAbs.log2 : Int) - 52 + 1074).toNat = i.natAbs.log2 + 1022 := by omega
    simp only [exponentFor_integer positive, scaled_integer, field]
    rfl

theorem integerMagnitude_le (n : Nat) : integerMagnitude n ≤ infinityBits := by
  rw [integerMagnitude]
  split
  · exact Nat.zero_le _
  · exact min_le_right _ _

theorem integerMagnitude_mono (h : n ≤ n') : integerMagnitude n ≤ integerMagnitude n' := by
  rw [integerMagnitude]
  split
  · exact Nat.zero_le _
  · rename_i positive
    rw [integerMagnitude, if_neg (by omega)]
    exact min_le_min_right _ (integerPattern_mono positive h)

/-- Up to `2 ^ 53` no two integers are rounded to one number. -/
theorem integerMagnitude_lt (h : n < n') (small : n' ≤ 2 ^ 53) :
    integerMagnitude n < integerMagnitude n' := by
  have positive' : n' ≠ 0 := by omega
  have finite : integerPattern n' < infinityBits := by
    have size : n'.log2 ≤ 53 := by
      have power : 2 ^ n'.log2 ≤ 2 ^ 53 := (Nat.log2_self_le positive').trans small
      exact (Nat.pow_le_pow_iff_right (by decide)).1 power
    have most := integerSignificand_le n'
    rw [integerPattern, infinityBits]
    omega
  have whole : integerMagnitude n' = integerPattern n' := by
    rw [integerMagnitude, if_neg positive', min_eq_left finite.le]
  rw [whole, integerMagnitude]
  split
  · have least := le_integerSignificand positive'
    rw [integerPattern]
    omega
  · rename_i positive
    exact (min_le_left _ _).trans_lt (integerPattern_lt positive h small)

/-! ### Ranks -/

/-- Sign and pattern give the place in the order, where both zeros come to 0. -/
theorem rank_ofMagnitude (negative : Bool) {m : Nat} (h : m < 2 ^ 63) :
    (ofMagnitude negative m).rank = if negative then -(m : Int) else m := by
  have sign : (ofMagnitude negative m).isNegative = negative := by
    have power : Nat.pow 2 63 = 2 ^ 63 := rfl
    rw [isNegative, ofMagnitude, UInt64.toNat_ofNat', power]
    cases negative
    · rw [if_neg (by decide), decide_eq_false_iff_not]
      omega
    · rw [if_pos rfl, decide_eq_true_iff]
      omega
  rw [rank, sign, magnitude_ofMagnitude negative h]

theorem integerMagnitude_lt_sign (n : Nat) : integerMagnitude n < 2 ^ 63 :=
  (integerMagnitude_le n).trans_lt (by decide)

theorem rank_ofInt (i : Int) :
    (ofInt i).rank =
      if i < 0 then -(integerMagnitude i.natAbs : Int) else integerMagnitude i.natAbs := by
  rw [ofInt_eq, rank_ofMagnitude _ (integerMagnitude_lt_sign _)]
  simp

theorem isNaN_ofInt (i : Int) : (ofInt i).isNaN = false := by
  rw [ofInt_eq, isNaN, magnitude_ofMagnitude _ (integerMagnitude_lt_sign _),
    decide_eq_false_iff_not, Nat.not_lt]
  exact integerMagnitude_le _

/-- Rounding keeps the order of integers. -/
theorem rank_ofInt_mono {i j : Int} (h : i ≤ j) : (ofInt i).rank ≤ (ofInt j).rank := by
  rw [rank_ofInt, rank_ofInt]
  split
  · split
    · have sizes : integerMagnitude j.natAbs ≤ integerMagnitude i.natAbs :=
        integerMagnitude_mono (by omega)
      omega
    · omega
  · rw [if_neg (by omega)]
    have sizes : integerMagnitude i.natAbs ≤ integerMagnitude j.natAbs :=
      integerMagnitude_mono (by omega)
    omega

/-- Up to `2 ^ 53` in size rounding keeps integers apart. -/
theorem rank_ofInt_lt {i j : Int} (h : i < j) (small : i.natAbs ≤ 2 ^ 53)
    (small' : j.natAbs ≤ 2 ^ 53) : (ofInt i).rank < (ofInt j).rank := by
  rw [rank_ofInt, rank_ofInt]
  split
  · split
    · have sizes : integerMagnitude j.natAbs < integerMagnitude i.natAbs :=
        integerMagnitude_lt (by omega) small
      omega
    · have size : integerMagnitude 0 < integerMagnitude i.natAbs :=
        integerMagnitude_lt (by omega) small
      omega
  · rw [if_neg (by omega)]
    have sizes : integerMagnitude i.natAbs < integerMagnitude j.natAbs :=
      integerMagnitude_lt (by omega) small'
    omega

/-- Integers are never rounded to something that is no number, so their places decide. -/
theorem sameNumber_ofInt_iff {i j : Int} :
    (ofInt i).sameNumber (ofInt j) = true ↔ (ofInt i).rank = (ofInt j).rank := by
  rw [sameNumber, compare?, isNaN_ofInt, isNaN_ofInt]
  simp

end EstateSearch.Binary64
