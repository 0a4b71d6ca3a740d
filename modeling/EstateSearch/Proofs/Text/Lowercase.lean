import EstateSearch.Text.Lowercase

/-!
# Lowercase loses nothing

No character has an empty lowercase, so a text and its lowercase are empty together
(`lowercase_eq_nil`).
-/

set_option autoImplicit false

namespace EstateSearch.Text

theorem lowerBetween_ne_nil (before : List Char) (c : Char) (after : List Char) :
    lowerBetween before c after ≠ [] := by
  unfold lowerBetween
  split
  · simp
  · split <;> simp

theorem lowercase_eq_nil {text : List Char} : lowercase text = [] ↔ text = [] := by
  cases text with
  | nil => simp [lowercase, lowercaseAfter]
  | cons c text =>
    rw [lowercase, lowercaseAfter, List.append_eq_nil_iff]
    simp [lowerBetween_ne_nil]

theorem lower_eq_empty {text : String} : lower text = "" ↔ text = "" := by
  rw [lower, ← String.toList_inj, String.toList_ofList, ← String.toList_inj]
  exact lowercase_eq_nil

end EstateSearch.Text
