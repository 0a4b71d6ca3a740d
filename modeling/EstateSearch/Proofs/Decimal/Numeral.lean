import EstateSearch.Decimal.Numeral

/-!
# Digits and canonical numerals

Digits are read back from their characters (`takeDigits_spell_append`), whatever follows them, as
long as it is no digit. A numeral in canonical form has whole digits that are read alike. What is
written always is in canonical form; `Proofs.Decimal.Layout` shows it for the layouts of numbers.
-/

set_option autoImplicit false

namespace EstateSearch.Decimal

/-! ### Digits -/

def StartsNoDigit (text : List Char) : Prop := ∀ c ∈ text.head?, digit? c = none

theorem startsNoDigit_cons {c : Char} (h : digit? c = none) (text : List Char) :
    StartsNoDigit (c :: text) := by
  simpa [StartsNoDigit] using h

/-- Reading a digit undoes writing it. -/
theorem digit?_eq_some_iff {c : Char} {d : Digit} : digit? c = some d ↔ d.toChar = c := by
  constructor
  · intro read
    rw [digit?] at read
    split at read
    · rename_i inRange
      obtain rfl := Option.some.inj read
      rw [Digit.toChar, Nat.add_sub_cancel' inRange.1, Char.ofNat_toNat]
    · cases read
  · rintro rfl
    exact digit?_toChar d

theorem cons_eq_spell_iff {c : Char} {rest : List Char} {ds : List Digit} :
    c :: rest = spell ds ↔ ∃ d more, ds = d :: more ∧ digit? c = some d ∧ rest = spell more := by
  rw [eq_comm, spell, List.map_eq_cons_iff]
  refine exists₂_congr fun d more => ?_
  rw [digit?_eq_some_iff, @eq_comm _ rest, spell]

theorem digits_ne_nil (n : Nat) : digits n ≠ [] := by
  rw [digits]
  split <;> simp

theorem digits_zero : digits 0 = [0] := by
  rw [digits]
  rfl

/-- Only the number zero is written with a zero in front. -/
theorem head?_digits {n : Nat} (h : (digits n).head? = some 0) : n = 0 := by
  induction n using Nat.strongRecOn with
  | ind n ih =>
    rw [digits] at h
    split at h
    · have zero := congrArg Fin.val (Option.some.inj h)
      exact zero
    · obtain ⟨d, ds, more⟩ := List.exists_cons_of_ne_nil (digits_ne_nil (n / 10))
      have first : (digits (n / 10)).head? = some 0 := by simpa [more] using h
      have small := ih (n / 10) (by omega) first
      omega

/-- Written digits are all read back where no further digit follows. -/
theorem takeDigits_spell_append (ds : List Digit) {rest : List Char} (h : StartsNoDigit rest) :
    takeDigits (spell ds ++ rest) = (ds, rest) := by
  induction ds with
  | nil =>
    cases rest with
    | nil => rfl
    | cons c rest =>
      have noDigit : digit? c = none := h c rfl
      simp [spell, takeDigits, noDigit]
  | cons d ds ih =>
    rw [spell] at ih
    rw [spell, List.map_cons, List.cons_append, takeDigits, digit?_toChar, ih]

namespace Numeral

/-! ### Canonical numerals -/

/-- The numeral has whole digits, and the first of several is not zero. -/
structure IsCanonical (n : Numeral) : Prop where
  whole : n.whole ≠ []
  noLeadingZero : n.whole.head? = some 0 → n.whole = [0]

/-- The text does not go on with a numeral before it. -/
def Ends (rest : List Char) : Prop :=
  StartsNoDigit rest ∧ ∀ c ∈ rest.head?, c ≠ '.' ∧ c ≠ 'e' ∧ c ≠ 'E'

theorem ends_nil : Ends [] := by simp [Ends, StartsNoDigit]

theorem ends_cons {c : Char} (noDigit : digit? c = none) (noMark : c ≠ '.' ∧ c ≠ 'e' ∧ c ≠ 'E')
    (rest : List Char) : Ends (c :: rest) :=
  ⟨startsNoDigit_cons noDigit rest, by simpa using noMark⟩

theorem takeWhole?_spell_append {n : Numeral} (canonical : n.IsCanonical) {rest : List Char}
    (h : StartsNoDigit rest) : takeWhole? (spell n.whole ++ rest) = some (n.whole, rest) := by
  rw [takeWhole?, takeDigits_spell_append _ h]
  obtain ⟨nonempty, noLeadingZero⟩ := canonical
  cases whole : n.whole with
  | nil => exact absurd whole nonempty
  | cons d ds =>
    rw [whole] at noLeadingZero
    have alone : ¬ (d.val = 0 && !ds.isEmpty) = true := by
      intro leading
      rw [Bool.and_eq_true, decide_eq_true_iff, Bool.not_eq_true', List.isEmpty_eq_false_iff]
        at leading
      have zero : d = 0 := Fin.ext leading.1
      exact leading.2 (List.cons.inj (noLeadingZero (congrArg some zero))).2
    exact if_neg alone

/-- A fraction, or none, is read back where neither a digit nor a point follows. -/
theorem takeFraction?_append (fraction : List Digit) {rest : List Char} (h : StartsNoDigit rest)
    (noPoint : ∀ c ∈ rest.head?, c ≠ '.') :
    takeFraction? (fractionText fraction ++ rest) = some (fraction, rest) := by
  cases fraction with
  | nil =>
    cases rest with
    | nil => rfl
    | cons c rest =>
      have point : c ≠ '.' := noPoint c rfl
      simp [fractionText, takeFraction?, point]
  | cons d ds =>
    have written : fractionText (d :: ds) = '.' :: spell (d :: ds) := rfl
    rw [written, List.cons_append, takeFraction?, takeDigits_spell_append _ h]

theorem startsNoDigit_fractionText (fraction : List Digit) {rest : List Char}
    (h : StartsNoDigit rest) : StartsNoDigit (fractionText fraction ++ rest) := by
  cases fraction with
  | nil => exact h
  | cons d ds => exact startsNoDigit_cons (by decide) _

end Numeral

end EstateSearch.Decimal
