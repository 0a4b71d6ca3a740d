import EstateSearch.Text.Lowercase

/-!
# No capitals in lowercase

A capital is a character that lowercase changes. No capital is left in a lowercase text
(`isCapital_of_mem_lowercase`), and a text without capitals is its own lowercase
(`lowercase_eq_self`), so a second lowercase changes nothing (`lowercase_lowercase`). Neighbours
play no part in this: the only capital whose lowercase hangs on them is the sigma, and it is gone.

That the lowercase of a capital is no capital again is a fact about the table. It is checked row
against row: the code points that a row maps to lie outside of the other row, or they fall between
its capitals (`Casing.Row.misses`).
-/

set_option autoImplicit false

namespace EstateSearch.Text

namespace Casing

/-- The two capitals that are in no row of the table, as rows of their own. -/
def specialRows : List Row :=
  [⟨'Σ'.toNat, 'Σ'.toNat, 1, 'σ'.toNat⟩, ⟨'İ'.toNat, 'İ'.toNat, 1, 'i'.toNat⟩]

def capitalRows : List Row := rows ++ laterRows ++ specialRows

/-- Is it plain that no code point that the row maps to is a capital of the other row? Either the
two are apart, or the other row holds every second code point and the row maps to those between. -/
def Row.misses (row other : Row) : Bool :=
  Nat.blt (row.lower row.last) other.first || Nat.blt other.last row.target ||
    (other.stride == 2 && (row.stride == 2 || row.first == row.last) &&
      (row.target + other.first) % 2 == 1)

theorem Row.holds_iff {row : Row} {n : Nat} :
    row.holds n = true ↔ row.first ≤ n ∧ n ≤ row.last ∧ (n - row.first) % row.stride = 0 := by
  simp [holds, and_assoc]

/-- The cheap test on two rows is sound. -/
theorem Row.holds_lower_of_misses {row other : Row} (h : row.misses other = true) {n : Nat}
    (held : row.holds n = true) : other.holds (row.lower n) = false := by
  obtain ⟨least, most, step⟩ := holds_iff.1 held
  rw [← Bool.not_eq_true, holds_iff]
  rintro ⟨least', most', step'⟩
  simp only [lower] at least' most' step'
  simp only [misses, lower, Bool.or_eq_true, Bool.and_eq_true, Nat.blt_eq, beq_iff_eq] at h
  rcases h with (before | after) | ⟨⟨stride', spread⟩, odd⟩
  · omega
  · omega
  · rw [stride'] at step'
    have even : (n - row.first) % 2 = 0 := by
      rcases spread with stride | single
      · rwa [stride] at step
      · omega
    omega

/-- The special rows hold one capital each. -/
theorem eq_of_mem_specialRows {row : Row} (h : row ∈ specialRows) {n : Nat}
    (held : row.holds n = true) : n = 'Σ'.toNat ∨ n = 'İ'.toNat := by
  obtain ⟨least, most, -⟩ := Row.holds_iff.1 held
  simp only [specialRows, List.mem_cons, List.not_mem_nil, or_false] at h
  rcases h with rfl | rfl
  · exact Or.inl (Nat.le_antisymm most least)
  · exact Or.inr (Nat.le_antisymm most least)

/-- No row maps to a capital. -/
theorem misses_capitalRows :
    ((rows ++ laterRows).all fun row => capitalRows.all row.misses) = true := by
  decide +kernel

/-- What is no character becomes the first code point, and this is no capital. -/
theorem holds_zero : (capitalRows.any (·.holds 0)) = false := by decide +kernel

end Casing

def isCapital (c : Char) : Bool := Casing.capitalRows.any (·.holds c.toNat)

theorem isCapital_eq_false_iff {c : Char} :
    isCapital c = false ↔ ∀ row ∈ Casing.capitalRows, row.holds c.toNat = false := by
  simp [isCapital]

theorem isCapital_ofNat {n : Nat} (h : ∀ row ∈ Casing.capitalRows, row.holds n = false) :
    isCapital (Char.ofNat n) = false := by
  by_cases valid : n.isValidChar
  · have character : Char.ofNat n = Char.ofNatAux n valid := dif_pos valid
    rw [character, isCapital_eq_false_iff]
    exact h
  · have first : Char.ofNat n = '\x00' := dif_neg valid
    rw [first]
    exact Casing.holds_zero

/-- A character that is neither of the special capitals has a lowercase that is no capital. -/
theorem isCapital_lowerChar {c : Char} (noSigma : c ≠ 'Σ') (noDot : c ≠ 'İ') :
    isCapital (lowerChar c) = false := by
  unfold lowerChar Casing.lowerBy
  split
  · rename_i row found
    have held := List.find?_some found
    have listed := List.mem_of_find?_eq_some found
    have missed := List.all_eq_true.1 Casing.misses_capitalRows row listed
    refine isCapital_ofNat fun other belongs => ?_
    exact Casing.Row.holds_lower_of_misses (List.all_eq_true.1 missed other belongs) held
  · rename_i none
    rw [List.find?_eq_none] at none
    rw [isCapital_eq_false_iff, Casing.capitalRows]
    intro row belongs
    rcases List.mem_append.1 belongs with general | special
    · simpa using none row general
    · rw [← Bool.not_eq_true]
      intro held
      rcases Casing.eq_of_mem_specialRows special held with sigma | dot
      · exact noSigma (Char.toNat_inj.1 sigma)
      · exact noDot (Char.toNat_inj.1 dot)

/-- Lowercase characters have no other lowercase. -/
theorem isCapital_of_mem_lowerBetween {before after : List Char} {c d : Char}
    (h : d ∈ lowerBetween before c after) : isCapital d = false := by
  unfold lowerBetween at h
  split at h
  · rw [List.mem_singleton] at h
    split at h
    · rw [h]
      decide +kernel
    · rw [h]
      decide +kernel
  · rename_i noSigma
    split at h
    · simp only [List.mem_cons, List.not_mem_nil, or_false] at h
      rcases h with rfl | rfl
      · decide +kernel
      · decide +kernel
    · rename_i noDot
      rw [List.mem_singleton] at h
      rw [h]
      exact isCapital_lowerChar noSigma noDot

theorem isCapital_of_mem_lowercaseAfter {before text : List Char} {c : Char}
    (h : c ∈ lowercaseAfter before text) : isCapital c = false := by
  induction text generalizing before with
  | nil => simp [lowercaseAfter] at h
  | cons d text ih =>
    rw [lowercaseAfter, List.mem_append] at h
    rcases h with first | rest
    · exact isCapital_of_mem_lowerBetween first
    · exact ih rest

/-- No capital is left in a lowercase text. -/
theorem isCapital_of_mem_lowercase {text : List Char} {c : Char} (h : c ∈ lowercase text) :
    isCapital c = false :=
  isCapital_of_mem_lowercaseAfter h

/-- A character that is no capital stays as it is, wherever it stands. -/
theorem lowerBetween_eq_self {c : Char} (h : isCapital c = false) (before after : List Char) :
    lowerBetween before c after = [c] := by
  have noSigma : c ≠ 'Σ' := by
    rintro rfl
    exact absurd h (by decide +kernel)
  have noDot : c ≠ 'İ' := by
    rintro rfl
    exact absurd h (by decide +kernel)
  have general : ∀ row ∈ Casing.rows ++ Casing.laterRows, ¬ row.holds c.toNat = true := by
    intro row belongs
    rw [Bool.not_eq_true]
    exact isCapital_eq_false_iff.1 h row (List.mem_append_left _ belongs)
  rw [lowerBetween, if_neg noSigma, if_neg noDot, lowerChar, Casing.lowerBy,
    List.find?_eq_none.2 general]

/-- A text without capitals is its own lowercase. -/
theorem lowercaseAfter_eq_self {text : List Char} (h : ∀ c ∈ text, isCapital c = false)
    (before : List Char) : lowercaseAfter before text = text := by
  induction text generalizing before with
  | nil => rfl
  | cons c text ih =>
    rw [List.forall_mem_cons] at h
    rw [lowercaseAfter, lowerBetween_eq_self h.1, ih h.2, List.singleton_append]

/-- A text without capitals is its own lowercase. -/
theorem lowercase_eq_self {text : List Char} (h : ∀ c ∈ text, isCapital c = false) :
    lowercase text = text :=
  lowercaseAfter_eq_self h []

/-- The lowercase of a lowercase text is the text. -/
theorem lowercase_lowercase (text : List Char) : lowercase (lowercase text) = lowercase text :=
  lowercase_eq_self fun _ belongs => isCapital_of_mem_lowercase belongs

theorem lower_lower (text : String) : lower (lower text) = lower text := by
  rw [lower, lower, String.toList_ofList, lowercase_lowercase]

end EstateSearch.Text
