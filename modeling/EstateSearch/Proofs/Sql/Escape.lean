import EstateSearch.Proofs.Sql.Like

/-!
# Escaped needles in patterns

The meaning of `LIKE` as rules, one for each kind of sign (`Matches`). They leave open how much of
the text a `%` takes. A search for the right stretch decides them (`likes_iff_matches`).

A needle that was escaped loses all meaning as a pattern: between two signs `%` it matches just the
texts in which it stands letter for letter, and no backslash of it takes the second `%` for itself
or is left without a character to escape (`containing_matches_iff`).
-/

set_option autoImplicit false

namespace EstateSearch.Sql

/-! ### The rules -/

/-- The text matches the pattern. -/
inductive Matches : List Char → List Char → Prop where
  | nil : Matches [] []
  /-- `%` takes any stretch of characters -/
  | stretch {pattern text : List Char} (skipped : List Char) (rest : Matches pattern text) :
      Matches ('%' :: pattern) (skipped ++ text)
  /-- `_` takes any one character -/
  | one {pattern text : List Char} (c : Char) (rest : Matches pattern text) :
      Matches ('_' :: pattern) (c :: text)
  /-- a backslash and a character take this character -/
  | escaped {pattern text : List Char} (c : Char) (rest : Matches pattern text) :
      Matches ('\\' :: c :: pattern) (c :: text)
  /-- a character that is no sign takes itself -/
  | plain {pattern text : List Char} {c : Char} (noSign : isPatternSign c = false)
      (rest : Matches pattern text) : Matches (c :: pattern) (c :: text)

/-- The pattern ends in a backslash that has nothing to escape. -/
inductive EndsOpen : List Char → Prop where
  | here : EndsOpen ['\\']
  | escaped {pattern : List Char} (c : Char) (rest : EndsOpen pattern) :
      EndsOpen ('\\' :: c :: pattern)
  | other {pattern : List Char} {c : Char} (noBackslash : c ≠ '\\') (rest : EndsOpen pattern) :
      EndsOpen (c :: pattern)

theorem patternParts?_one (rest : List Char) :
    patternParts? ('_' :: rest) = (patternParts? rest).map (.one :: ·) := by
  cases rest <;> simp [patternParts?]

theorem endsOpen_cons_iff {c : Char} (noBackslash : c ≠ '\\') (pattern : List Char) :
    EndsOpen (c :: pattern) ↔ EndsOpen pattern := by
  constructor
  · intro h
    cases h with
    | here => exact absurd rfl noBackslash
    | escaped => exact absurd rfl noBackslash
    | other _ rest => exact rest
  · exact .other noBackslash

/-- An escaped character closes its escape. -/
theorem endsOpen_escaped_iff (c : Char) (pattern : List Char) :
    EndsOpen ('\\' :: c :: pattern) ↔ EndsOpen pattern := by
  constructor
  · intro h
    cases h with
    | escaped _ rest => exact rest
    | other noBackslash => exact absurd rfl noBackslash
  · exact .escaped c

/-- A pattern falls into parts unless it ends in an open escape. -/
theorem patternParts?_eq_none_iff (pattern : List Char) :
    patternParts? pattern = none ↔ EndsOpen pattern := by
  fun_induction patternParts? pattern with
  | case1 => simp only [reduceCtorEq, false_iff]; exact nofun
  | case2 rest ih => rw [Option.map_eq_none_iff, ih, endsOpen_cons_iff (by decide)]
  | case3 rest _ ih => rw [Option.map_eq_none_iff, ih, endsOpen_cons_iff (by decide)]
  | case4 => exact iff_of_true rfl .here
  | case5 escaped rest _ _ ih => rw [Option.map_eq_none_iff, ih, endsOpen_escaped_iff]
  | case6 c rest _ _ noBackslash ih => rw [Option.map_eq_none_iff, ih, endsOpen_cons_iff noBackslash]

/-! ### The search decides the rules -/

/-- Soundness: a text that fits the parts of a pattern matches it. -/
theorem matches_of_fits {pattern : List Char} {parts : List PatternPart} {text : List Char}
    (read : patternParts? pattern = some parts) (fit : fits parts text = true) :
    Matches pattern text := by
  fun_induction patternParts? pattern generalizing parts text with
  | case1 =>
    obtain rfl := Option.some.inj read
    obtain rfl := List.isEmpty_iff.1 fit
    exact .nil
  | case2 rest ih =>
    obtain ⟨others, readRest, rfl⟩ := Option.map_eq_some_iff.1 read
    obtain ⟨taken, ⟨skipped, rfl⟩, fitRest⟩ := (fits_stretch_iff others text).1 fit
    exact .stretch skipped (ih readRest fitRest)
  | case3 rest _ ih =>
    obtain ⟨others, readRest, rfl⟩ := Option.map_eq_some_iff.1 read
    cases text with
    | nil => cases fit
    | cons c text => exact .one c (ih readRest fit)
  | case4 => cases read
  | case5 escaped rest _ _ ih =>
    obtain ⟨others, readRest, rfl⟩ := Option.map_eq_some_iff.1 read
    obtain ⟨text, rfl, fitRest⟩ := (fits_just_append [escaped] others text).1 fit
    exact .escaped escaped (ih readRest fitRest)
  | case6 c rest noStretch notOne noBackslash ih =>
    obtain ⟨others, readRest, rfl⟩ := Option.map_eq_some_iff.1 read
    obtain ⟨text, rfl, fitRest⟩ := (fits_just_append [c] others text).1 fit
    have noSign : isPatternSign c = false := by
      simp [isPatternSign, noStretch, notOne, noBackslash]
    exact .plain noSign (ih readRest fitRest)

/-- Completeness: a pattern that is matched has parts, which the text fits. -/
theorem Matches.exists_parts {pattern text : List Char} (h : Matches pattern text) :
    ∃ parts, patternParts? pattern = some parts ∧ fits parts text = true := by
  induction h with
  | nil => exact ⟨[], rfl, rfl⟩
  | stretch skipped rest ih =>
    obtain ⟨parts, read, fit⟩ := ih
    refine ⟨.stretch :: parts, ?_, (fits_stretch_iff parts _).2 ⟨_, List.suffix_append _ _, fit⟩⟩
    rw [patternParts?_stretch, read, Option.map_some]
  | one c rest ih =>
    obtain ⟨parts, read, fit⟩ := ih
    refine ⟨.one :: parts, ?_, fit⟩
    rw [patternParts?_one, read, Option.map_some]
  | escaped c rest ih =>
    obtain ⟨parts, read, fit⟩ := ih
    refine ⟨.just c :: parts, ?_, (fits_just_append [c] parts _).2 ⟨_, rfl, fit⟩⟩
    rw [patternParts?_escaped, read, Option.map_some]
  | plain noSign rest ih =>
    obtain ⟨parts, read, fit⟩ := ih
    refine ⟨.just _ :: parts, ?_, (fits_just_append [_] parts _).2 ⟨_, rfl, fit⟩⟩
    rw [patternParts?_plain noSign, read, Option.map_some]

/-- The search for stretches finds a way for a text to match just if there is one. -/
theorem likes_iff_matches (pattern text : List Char) :
    likes pattern text = true ↔ Matches pattern text := by
  have search : likes pattern text = true ↔
      ∃ parts, patternParts? pattern = some parts ∧ fits parts text = true := by
    rw [likes]
    cases patternParts? pattern <;> simp
  rw [search]
  constructor
  · rintro ⟨parts, read, fit⟩
    exact matches_of_fits read fit
  · exact Matches.exists_parts

/-! ### Escaped needles -/

/-- The pattern for a needle has no open escape, and it matches just the texts in which the needle
stands letter for letter. -/
theorem containing_matches_iff (needle text : String) :
    let pattern := containingPattern needle.toList
    ¬ EndsOpen pattern ∧ (Matches pattern text.toList ↔ needle.toList <:+: text.toList) := by
  intro pattern
  constructor
  · rw [← patternParts?_eq_none_iff, patternParts?_containingPattern]
    exact Option.some_ne_none _
  · rw [← likes_iff_matches, likes_containingPattern, Text.occursIn_iff]

end EstateSearch.Sql
