import EstateSearch.Json.Number
import EstateSearch.Proofs.Decimal.Numeral
import Mathlib.Data.List.DropRight

/-!
# Written numbers are canonical numerals

The numerals of integers (`isCanonical_numeralOfInt`) and those of the layouts of binary64 numbers
(`isCanonical_numeral`) have no leading zero, so they are read back from their texts. The digits of
a number start with the first digit of its shortest decimal, which is not zero: the decimal zero
does not round to a number other than zero (`onGrid_coefficient_ne_zero`).
-/

set_option autoImplicit false

namespace EstateSearch.Decimal

/-- A numeral whose first whole digit is not zero has no leading zeros. -/
theorem Numeral.isCanonical_of_head? {n : Numeral} {d : Digit} (first : n.whole.head? = some d)
    (nonzero : d ≠ 0) : n.IsCanonical := by
  refine ⟨?_, fun zero => ?_⟩
  · intro empty
    rw [empty] at first
    cases first
  · exact absurd (Option.some.inj (first.symm.trans zero)) nonzero

theorem isCanonical_numeralOfInt (i : Int) : (Json.numeralOfInt i).IsCanonical := by
  refine ⟨digits_ne_nil _, fun zero => ?_⟩
  have nothing : i.natAbs = 0 := head?_digits zero
  rw [← digits_zero, ← nothing]
  rfl

/-! ### The shortest decimal -/

theorem significand_pos {x : Binary64} (h : x.magnitude ≠ 0) : 0 < x.significand := by
  rw [Binary64.significand]
  split
  · rename_i small
    rw [Binary64.exponentField, Nat.div_eq_zero_iff_lt (by decide)] at small
    have fraction : x.magnitude % Nat.pow 2 52 = x.magnitude := Nat.mod_eq_of_lt small
    rw [fraction]
    omega
  · have leading : 0 < Nat.pow 2 52 := by decide
    omega

/-- Zero does not round to another number. -/
theorem low_pos {x : Binary64} (h : x.magnitude ≠ 0) : 0 < (Neighbourhood.of x).low := by
  have significand := significand_pos h
  have unit : 0 < Nat.pow 2 (x.exponent - 2).toNat := Nat.pow_pos (by decide)
  have below (narrow : Bool) : 0 < 4 * x.significand - if narrow then 1 else 2 := by
    cases narrow
    · rw [if_neg (by decide)]
      omega
    · rw [if_pos rfl]
      omega
  exact Nat.mul_pos (below _) unit

/-- Zero does not round to any other number. -/
theorem holds_zero {n : Neighbourhood} (low : 0 < n.low) {den : Nat} (h : 0 < den) :
    n.holds 0 den = false := by
  have above : 0 < n.low * den := Nat.mul_pos low h
  rw [Neighbourhood.holds]
  split <;> simp only [Nat.zero_mul, Bool.and_eq_false_iff, decide_eq_false_iff_not] <;> omega

/-- The upper neighbour on a grid is never zero, and the lower one only if the number holds zero. -/
theorem coefficient_of_neighbour {upper lower : Bool} {floor : Nat} {power : Int} {decimal : Scaled}
    (h : (if upper = true then some ⟨floor + 1, power⟩
      else if lower = true then some ⟨floor, power⟩ else none) = some decimal)
    (zero : decimal.coefficient = 0) : lower = true ∧ floor = 0 := by
  cases upper with
  | true =>
    obtain rfl := Option.some.inj h
    cases zero
  | false =>
    cases lower with
    | true =>
      obtain rfl := Option.some.inj h
      exact ⟨rfl, zero⟩
    | false => cases h

/-- The decimal that is found for a number other than zero is not zero. -/
theorem onGrid_coefficient_ne_zero {n : Neighbourhood} (low : 0 < n.low) {tie : Tie}
    {position : Int} {count : Nat} {decimal : Scaled}
    (h : n.onGrid tie position count = some decimal) : decimal.coefficient ≠ 0 := by
  intro zero
  have cells : 0 < Nat.pow 10 (-(position - count)).toNat := Nat.pow_pos (by decide)
  obtain ⟨lower, floor⟩ := coefficient_of_neighbour h zero
  rw [floor, Nat.zero_mul, holds_zero low cells] at lower
  cases lower

/-- The shortest decimal of a number other than zero is not zero, but for the integer that stands in
where no grid has a decimal. -/
theorem power_of_shortest (tie : Tie) {x : Binary64} (h : x.magnitude ≠ 0)
    (zero : (shortest tie x).coefficient = 0) : (shortest tie x).power = 0 := by
  rw [shortest] at zero ⊢
  cases found : (List.range 17).findSome? fun i =>
      (Neighbourhood.of x).onGrid tie
        (leadingPosition (Neighbourhood.of x).value (Neighbourhood.of x).den) (i + 1) with
  | none => rw [Option.getD_none]
  | some decimal =>
    obtain ⟨i, -, onGrid⟩ := List.exists_of_findSome?_eq_some found
    simp only [found, Option.getD_some] at zero
    exact absurd zero (onGrid_coefficient_ne_zero (low_pos h) onGrid)

/-! ### Layouts -/

theorem head?_dropTrailingZeros {ds : List Digit} {d : Digit} (first : ds.head? = some d)
    (nonzero : d ≠ 0) : (dropTrailingZeros ds).head? = some d := by
  obtain ⟨rest, rfl⟩ := List.head?_eq_some_iff.1 first
  have kept : dropTrailingZeros (d :: rest) <+: d :: rest :=
    List.rdropWhile_prefix (fun d : Digit => d.val == 0) _
  have nonempty : dropTrailingZeros (d :: rest) ≠ [] := by
    intro empty
    have zeros := (List.rdropWhile_eq_nil_iff (p := fun d : Digit => d.val == 0)).1 empty
    have zero := zeros d (by simp)
    exact nonzero (Fin.ext (by simpa using zero))
  obtain ⟨e, kept', found⟩ := List.exists_cons_of_ne_nil nonempty
  rw [found, List.cons_prefix_cons] at kept
  rw [found, kept.1, List.head?_cons]

/-- No layout writes superfluous zeros in front. -/
theorem isCanonical_positional (layout : Layout) (negative : Bool) {ds : List Digit} {d : Digit}
    (first : ds.head? = some d) (nonzero : d ≠ 0) (position : Int) :
    (layout.positional negative ds position).IsCanonical := by
  obtain ⟨rest, rfl⟩ := List.head?_eq_some_iff.1 first
  rw [Layout.positional]
  split
  · exact ⟨by simp, by simp⟩
  · dsimp only
    split
    · exact Numeral.isCanonical_of_head? rfl nonzero
    · obtain ⟨count, some⟩ : ∃ count, position.toNat = count + 1 :=
        ⟨position.toNat - 1, by omega⟩
      exact Numeral.isCanonical_of_head? (by rw [some]; rfl) nonzero

/-- The numeral of a number is canonical if numbers of one digit are written without exponent. -/
theorem isCanonical_numeral {layout : Layout} (plain : layout.isPlain 1 = true) (x : Binary64) :
    (layout.numeral x).IsCanonical := by
  rw [Layout.numeral]
  split
  · exact ⟨by simp, by simp⟩
  · rename_i nonzero
    dsimp only
    -- No decimal from a grid is zero, but the integer that stands in where there is none may be.
    by_cases zero : (shortest layout.tie x).coefficient = 0
    · have position : (([0] : List Digit).length : Int) + 0 = 1 := rfl
      rw [zero, power_of_shortest layout.tie nonzero zero, digits_zero, position, if_pos plain]
      exact ⟨by simp [Layout.positional, dropTrailingZeros],
        by simp [Layout.positional, dropTrailingZeros]⟩
    · obtain ⟨d, rest, found⟩ :=
        List.exists_cons_of_ne_nil (digits_ne_nil (shortest layout.tie x).coefficient)
      have leading : d ≠ 0 := by
        rintro rfl
        exact zero (head?_digits (by rw [found, List.head?_cons]))
      have first : (dropTrailingZeros (digits (shortest layout.tie x).coefficient)).head? =
          some d := head?_dropTrailingZeros (by rw [found, List.head?_cons]) leading
      split
      · exact isCanonical_positional layout _ first leading _
      · obtain ⟨more, whole⟩ := List.head?_eq_some_iff.1 first
        exact Numeral.isCanonical_of_head? (by rw [whole]; rfl) leading

end EstateSearch.Decimal
