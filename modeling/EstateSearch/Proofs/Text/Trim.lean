import EstateSearch.Text.Blank
import Mathlib.Data.List.DropRight

/-!
# Trimming

Trimming takes blanks away at both ends (`exists_eq_append_trim`) until no blank stands there
(`isTrimmed_trim`). These two facts fix what is left (`trim_append_append`).
-/

set_option autoImplicit false

namespace EstateSearch.Text

/-- No blank stands at either end of the text. -/
structure IsTrimmed (text : List Char) : Prop where
  start : ∀ c ∈ text.head?, isBlank c = false
  finish : ∀ c ∈ text.getLast?, isBlank c = false

theorem isTrimmed_of_solid {text : List Char} (solid : ∀ c ∈ text, isBlank c = false) :
    IsTrimmed text where
  start c first := solid c (List.mem_of_head? first)
  finish c last := solid c (List.mem_of_getLast? last)

theorem trimEnd_eq_rdropWhile (text : List Char) : trimEnd text = text.rdropWhile isBlank := rfl

/-- Trimming takes off nothing but blanks. -/
theorem exists_eq_append_trim (text : List Char) :
    ∃ before after, (∀ c ∈ before, isBlank c = true) ∧ (∀ c ∈ after, isBlank c = true) ∧
      text = before ++ trim text ++ after := by
  refine ⟨text.takeWhile isBlank, (trimStart text).rtakeWhile isBlank, ?_, ?_, ?_⟩
  · exact fun c belongs => List.mem_takeWhile_imp belongs
  · exact fun c belongs => List.mem_rtakeWhile_imp belongs
  · have fromEnd := List.rdropWhile_append_rtakeWhile (p := isBlank) (l := trimStart text)
    rw [trim, trimEnd_eq_rdropWhile, List.append_assoc, fromEnd, trimStart,
      List.takeWhile_append_dropWhile]

theorem mem_of_mem_trim {text : List Char} {c : Char} (h : c ∈ trim text) : c ∈ text := by
  obtain ⟨before, after, -, -, split⟩ := exists_eq_append_trim text
  rw [split]
  simp [h]

theorem isTrimmed_trim (text : List Char) : IsTrimmed (trim text) where
  start c first := by
    have inFront : trim text <+: trimStart text := List.rdropWhile_prefix _ _
    obtain ⟨more, whole⟩ := inFront
    have first' : (trimStart text).head? = some c := by
      rw [← whole, List.head?_append, Option.mem_def.1 first, Option.some_or]
    have stop := List.head?_dropWhile_not isBlank text
    rw [← trimStart, first'] at stop
    simpa using stop
  finish c last := by
    have nonempty : (trimStart text).rdropWhile isBlank ≠ [] := by
      intro empty
      rw [trim, trimEnd_eq_rdropWhile, empty] at last
      cases last
    have stop := List.rdropWhile_last_not isBlank _ nonempty
    rw [trim, trimEnd_eq_rdropWhile, List.getLast?_eq_some_getLast nonempty] at last
    obtain rfl := Option.some.inj last
    simpa using stop

/-- Trimming takes the blanks around a trimmed text away and leaves this text. -/
theorem trim_append_append {before text after : List Char} (h : IsTrimmed text)
    (blanks : ∀ c ∈ before, isBlank c = true) (blanks' : ∀ c ∈ after, isBlank c = true) :
    trim (before ++ text ++ after) = text := by
  cases text with
  | nil =>
    have none : trimStart (before ++ [] ++ after) = [] := by
      rw [trimStart, List.dropWhile_eq_nil_iff]
      simpa [or_imp, forall_and] using ⟨blanks, blanks'⟩
    rw [trim, none]
    rfl
  | cons c rest =>
    have solid : isBlank c = false := h.start c rfl
    have front : trimStart (before ++ (c :: rest) ++ after) = c :: rest ++ after := by
      rw [trimStart, List.append_assoc, List.dropWhile_append_of_pos blanks, List.cons_append,
        List.dropWhile_cons_of_neg (by simp [solid])]
    have back : (c :: rest).rdropWhile isBlank = c :: rest := by
      rw [List.rdropWhile_eq_self_iff]
      intro nonempty
      have last := h.finish _ (List.getLast?_eq_some_getLast nonempty)
      simp [last]
    rw [trim, front, trimEnd, List.reverse_append,
      List.dropWhile_append_of_pos (by simpa using blanks')]
    exact back

theorem IsTrimmed.trim_eq {text : List Char} (h : IsTrimmed text) : trim text = text := by
  have nothing : ∀ c ∈ ([] : List Char), isBlank c = true := by simp
  simpa using trim_append_append h nothing nothing

theorem trim_eq_nil_iff {text : List Char} : trim text = [] ↔ isBlankText text = true := by
  rw [isBlankText, List.all_eq_true]
  constructor
  · intro nothing c belongs
    obtain ⟨before, after, blanks, blanks', split⟩ := exists_eq_append_trim text
    rw [split, nothing, List.append_nil, List.mem_append] at belongs
    exact belongs.elim (blanks c) (blanks' c)
  · intro blank
    have empty : IsTrimmed [] := isTrimmed_of_solid (by simp)
    have noBlanks : ∀ c ∈ ([] : List Char), isBlank c = true := by simp
    simpa using trim_append_append empty blank noBlanks

end EstateSearch.Text
