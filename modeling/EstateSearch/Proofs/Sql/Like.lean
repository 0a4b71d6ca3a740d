import EstateSearch.Sql.Pattern
import EstateSearch.Text.Occurs
import Mathlib.Data.List.Infix

/-!
# What `LIKE` matches

The standard meaning of a pattern with the escape character backslash, and the patterns that are
written for a needle: they match a text exactly if the needle occurs in it
(`likes_containingPattern`), whatever signs the needle holds.
-/

set_option autoImplicit false

namespace EstateSearch.Sql

inductive PatternPart where
  /-- any stretch of characters -/
  | stretch
  /-- any one character -/
  | one
  /-- this character -/
  | just (c : Char)
  deriving DecidableEq, Repr

/-- The parts of a pattern; none if it ends in a backslash that escapes nothing. -/
def patternParts? : List Char → Option (List PatternPart)
  | [] => some []
  | c :: rest =>
    if c = '%' then (patternParts? rest).map (.stretch :: ·)
    else if c = '_' then (patternParts? rest).map (.one :: ·)
    else if c = '\\' then
      match rest with
      | [] => none
      | escaped :: rest => (patternParts? rest).map (.just escaped :: ·)
    else (patternParts? rest).map (.just c :: ·)

/-- Does a text consist of stretches as the parts ask for them? -/
def fits : List PatternPart → List Char → Bool
  | [], text => text.isEmpty
  | .stretch :: parts, text => text.tails.any (fits parts)
  | .one :: _, [] => false
  | .one :: parts, _ :: rest => fits parts rest
  | .just _ :: _, [] => false
  | .just c :: parts, d :: rest => c == d && fits parts rest

/-- Does `text LIKE pattern ESCAPE '\'` hold? -/
def likes (pattern text : List Char) : Bool :=
  match patternParts? pattern with
  | some parts => fits parts text
  | none => false

theorem patternParts?_stretch (rest : List Char) :
    patternParts? ('%' :: rest) = (patternParts? rest).map (.stretch :: ·) := by
  cases rest <;> simp [patternParts?]

theorem patternParts?_escaped (c : Char) (rest : List Char) :
    patternParts? ('\\' :: c :: rest) = (patternParts? rest).map (.just c :: ·) := by
  simp [patternParts?]

theorem patternParts?_plain {c : Char} (h : isPatternSign c = false) (rest : List Char) :
    patternParts? (c :: rest) = (patternParts? rest).map (.just c :: ·) := by
  have plain : c ≠ '%' ∧ c ≠ '_' ∧ c ≠ '\\' := by simpa [isPatternSign, and_assoc] using h
  cases rest <;> simp [patternParts?, plain]

/-- An escaped text is read back as its characters. -/
theorem patternParts?_escapePattern (text rest : List Char) :
    patternParts? (escapePattern text ++ rest) =
      (patternParts? rest).map (text.map .just ++ ·) := by
  induction text with
  | nil => simp [escapePattern]
  | cons c text ih =>
    unfold escapePattern
    split
    · simp [patternParts?_escaped, ih, Function.comp_def]
    · rename_i plain
      simp [patternParts?_plain (by simpa using plain), ih, Function.comp_def]

/-- The pattern for a needle has the needle between two open stretches, with nothing special left in
it. -/
theorem patternParts?_containingPattern (needle : List Char) :
    patternParts? (containingPattern needle) =
      some (.stretch :: (needle.map .just ++ [.stretch])) := by
  have closed : patternParts? ['%'] = some [.stretch] := by decide
  rw [containingPattern, List.cons_append, patternParts?_stretch,
    patternParts?_escapePattern, closed]
  rfl

/-- Literal parts fit exactly the texts that start with their characters. -/
theorem fits_just_append (needle : List Char) (parts : List PatternPart) (text : List Char) :
    fits (needle.map .just ++ parts) text = true ↔
      ∃ rest, text = needle ++ rest ∧ fits parts rest = true := by
  induction needle generalizing text with
  | nil => simp
  | cons c needle ih =>
    cases text with
    | nil => simp [fits]
    | cons d rest =>
      rw [List.map_cons, List.cons_append, fits, Bool.and_eq_true, beq_iff_eq, ih]
      constructor
      · rintro ⟨rfl, after, rfl, h⟩
        exact ⟨after, rfl, h⟩
      · rintro ⟨after, h, hfits⟩
        rw [List.cons_append, List.cons.injEq] at h
        exact ⟨h.1.symm, after, h.2, hfits⟩

/-- An open stretch may take any beginning of the text. -/
theorem fits_stretch_iff (parts : List PatternPart) (text : List Char) :
    fits (.stretch :: parts) text = true ↔ ∃ rest, rest <:+ text ∧ fits parts rest = true := by
  simp only [fits, List.any_eq_true, List.mem_tails]

theorem fits_stretch (text : List Char) : fits [.stretch] text = true :=
  (fits_stretch_iff [] text).2 ⟨[], List.nil_suffix, rfl⟩

/-- The pattern for a needle matches exactly the texts in which the needle occurs. -/
theorem likes_containingPattern (needle text : List Char) :
    likes (containingPattern needle) text = Text.occursIn needle text := by
  rw [Bool.eq_iff_iff, Text.occursIn_iff, likes, patternParts?_containingPattern]
  simp only [fits_stretch_iff _ text, fits_just_append]
  constructor
  · rintro ⟨tail, ⟨before, rfl⟩, rest, rfl, -⟩
    exact ⟨before, rest, by simp⟩
  · rintro ⟨before, rest, rfl⟩
    exact ⟨needle ++ rest, ⟨before, by simp⟩, rest, rfl, fits_stretch rest⟩

end EstateSearch.Sql
