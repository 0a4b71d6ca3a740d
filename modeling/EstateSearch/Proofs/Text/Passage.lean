import EstateSearch.Text.Lowercase

/-!
# The lowercase of a passage

Lowercase looks at the neighbours of a character, so a passage may come out otherwise in a text than
it does on its own. This module says when.

* The lowercase of a text is that of its passages one after the other, each of them between its
  neighbours (`lowercaseAfter_append`).
* Only a capital sigma hangs on its neighbours. A passage has in its place the lowercase that it has
  on its own just if each of its capital sigmas ends a word in both or in neither
  (`lowercaseBetween_eq_lowercase_iff`).
* This is so where no cased letter is met on either side of the passage
  (`lowercaseBetween_eq_lowercase`).
-/

set_option autoImplicit false

namespace EstateSearch.Text

/-- The lowercase of a text between `before` (nearest character first) and `after`. -/
def lowercaseBetween : List Char → List Char → List Char → List Char
  | _, [], _ => []
  | before, c :: rest, after =>
    lowerBetween before c (rest ++ after) ++ lowercaseBetween (c :: before) rest after

theorem lowercaseBetween_nil (before text : List Char) :
    lowercaseBetween before text [] = lowercaseAfter before text := by
  induction text generalizing before with
  | nil => rfl
  | cons c rest ih => rw [lowercaseBetween, List.append_nil, ih, lowercaseAfter]

/-- A text goes into lowercase part by part, if each part is told what stands around it. -/
theorem lowercaseAfter_append (before text after : List Char) :
    lowercaseAfter before (text ++ after) =
      lowercaseBetween before text after ++ lowercaseAfter (text.reverse ++ before) after := by
  induction text generalizing before with
  | nil => rfl
  | cons c rest ih =>
    have neighbours : (c :: rest).reverse ++ before = rest.reverse ++ c :: before := by simp
    rw [List.cons_append, lowercaseAfter, ih, lowercaseBetween, neighbours, List.append_assoc]

/-- A passage of a text is a stretch of its lowercase. -/
theorem lowercaseBetween_infix (before text after : List Char) :
    lowercaseBetween before.reverse text after <:+: lowercase (before ++ text ++ after) := by
  have first := lowercaseAfter_append [] before (text ++ after)
  have passage := lowercaseAfter_append before.reverse text after
  rw [List.append_nil, passage, ← List.append_assoc, ← List.append_assoc] at first
  exact ⟨_, _, first.symm⟩

/-! ### Capital sigmas -/

theorem length_lowerBetween (before : List Char) (c : Char) (after : List Char) :
    (lowerBetween before c after).length = if c = 'İ' then 2 else 1 := by
  unfold lowerBetween
  split
  · rename_i sigma
    rw [sigma]
    rfl
  · split <;> rfl

theorem lowerBetween_eq_iff (before before' : List Char) (c : Char) (after after' : List Char) :
    lowerBetween before c after = lowerBetween before' c after' ↔
      (c = 'Σ' → endsWord before after = endsWord before' after') := by
  unfold lowerBetween
  split
  · rename_i sigma
    cases endsWord before after <;> cases endsWord before' after' <;> simp [sigma]
  · rename_i noSigma
    simp [noSigma]

/-- The context of a text shows in its lowercase only through capital sigmas. -/
theorem lowercaseBetween_eq_iff (text before before' after after' : List Char) :
    lowercaseBetween before text after = lowercaseBetween before' text after' ↔
      ∀ start rest, text = start ++ 'Σ' :: rest →
        endsWord (start.reverse ++ before) (rest ++ after) =
          endsWord (start.reverse ++ before') (rest ++ after') := by
  induction text generalizing before before' with
  | nil => simp [lowercaseBetween]
  | cons c text ih =>
    -- Equal lengths at every character let the two lowercase texts be compared character by
    -- character.
    have sameLength : (lowerBetween before c (text ++ after)).length =
        (lowerBetween before' c (text ++ after')).length := by
      rw [length_lowerBetween, length_lowerBetween]
    constructor
    · intro equal start rest split
      obtain ⟨here, later⟩ := List.append_inj equal sameLength
      rw [lowerBetween_eq_iff] at here
      rw [ih] at later
      cases start with
      | nil =>
        obtain ⟨rfl, rfl⟩ := List.cons.inj split
        exact here rfl
      | cons d start =>
        obtain ⟨rfl, inRest⟩ := List.cons.inj split
        simpa using later start rest inRest
    · intro alike
      have here : lowerBetween before c (text ++ after) =
          lowerBetween before' c (text ++ after') := by
        rw [lowerBetween_eq_iff]
        rintro rfl
        exact alike [] text rfl
      have later : lowercaseBetween (c :: before) text after =
          lowercaseBetween (c :: before') text after' := by
        rw [ih]
        rintro start rest rfl
        simpa using alike (c :: start) rest rfl
      rw [lowercaseBetween, lowercaseBetween, here, later]

/-- Each capital sigma of a text ends a word between `before` (nearest character first) and `after`
just if it does in the text alone. -/
def KeepsSigmas (before text after : List Char) : Prop :=
  ∀ start rest, text = start ++ 'Σ' :: rest →
    endsWord (start.reverse ++ before) (rest ++ after) = endsWord start.reverse rest

theorem lowercaseBetween_eq_lowercase_iff (before text after : List Char) :
    lowercaseBetween before text after = lowercase text ↔ KeepsSigmas before text after := by
  rw [lowercase, ← lowercaseBetween_nil, lowercaseBetween_eq_iff]
  simp only [List.append_nil, KeepsSigmas]

/-! ### Passages at the borders of words -/

/-- Going on behind a text, one meets no cased letter that one has not met in it. -/
theorem meetsCased_append {more : List Char} (h : meetsCased more = false) (text : List Char) :
    meetsCased (text ++ more) = meetsCased text := by
  induction text with
  | nil => exact h
  | cons c text ih =>
    cases ignorable : isCaseIgnorable c with
    | true => simpa [meetsCased, ignorable] using ih
    | false => simp [meetsCased, ignorable]

/-- Between characters that end words every sigma is as it is in the text alone. -/
theorem keepsSigmas_of_borders {before after : List Char} (h : meetsCased before = false)
    (h' : meetsCased after = false) (text : List Char) : KeepsSigmas before text after := by
  intro start rest _
  rw [endsWord, endsWord, meetsCased_append h, meetsCased_append h']

theorem keepsSigmas_of_no_sigma {text : List Char} (h : 'Σ' ∉ text) (before after : List Char) :
    KeepsSigmas before text after := by
  rintro start rest rfl
  exact absurd (by simp) h

theorem lowercaseBetween_eq_lowercase {before after : List Char} (h : meetsCased before = false)
    (h' : meetsCased after = false) (text : List Char) :
    lowercaseBetween before text after = lowercase text :=
  (lowercaseBetween_eq_lowercase_iff before text after).2 (keepsSigmas_of_borders h h' text)

end EstateSearch.Text
