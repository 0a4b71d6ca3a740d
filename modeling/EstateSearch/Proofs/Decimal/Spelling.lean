import EstateSearch.Proofs.Decimal.Numeral

/-!
# The grammar of numerals

A numeral has more spellings than the one it is written with: an exponent has either mark, its sign
may be left out, and zeros may stand in front of its digits. `Spells` is the relation between the
spellings and the numeral. The reader accepts the spellings and nothing else: what it takes from a
text is one (`exists_spells_of_take?`), and each is taken from any text that does not go on with it
(`take?_of_spells`). The text that a numeral in canonical form is written with is one of them
(`spells_text`).
-/

set_option autoImplicit false

namespace EstateSearch.Decimal

/-- The digits that are read are the start of the text. -/
theorem eq_append_of_takeDigits {cs rest : List Char} {ds : List Digit}
    (h : takeDigits cs = (ds, rest)) : cs = spell ds ++ rest := by
  induction cs generalizing ds with
  | nil =>
    obtain ⟨rfl, rfl⟩ := Prod.mk.inj h
    rfl
  | cons c cs ih =>
    rw [takeDigits] at h
    split at h
    · rename_i d digit
      obtain ⟨rfl, rfl⟩ := Prod.mk.inj h
      have first : d.toChar = c := digit?_eq_some_iff.1 digit
      rw [spell, List.map_cons, first, List.cons_append, ← spell, ← ih rfl]
    · obtain ⟨rfl, rfl⟩ := Prod.mk.inj h
      rfl

namespace Numeral

/-- The text writes an exponent: nothing at all, or a mark, a sign or none, and digits. -/
inductive SpellsExponent : List Char → Option Int → Prop
  | absent : SpellsExponent [] none
  | unsigned {mark : Char} {ds : List Digit} (isMark : mark = 'e' ∨ mark = 'E')
    (nonempty : ds ≠ []) : SpellsExponent (mark :: spell ds) (some (valueOf ds))
  | plus {mark : Char} {ds : List Digit} (isMark : mark = 'e' ∨ mark = 'E')
    (nonempty : ds ≠ []) : SpellsExponent (mark :: '+' :: spell ds) (some (valueOf ds))
  | minus {mark : Char} {ds : List Digit} (isMark : mark = 'e' ∨ mark = 'E')
    (nonempty : ds ≠ []) : SpellsExponent (mark :: '-' :: spell ds) (some (-valueOf ds))

/-- The text writes the numeral. -/
inductive Spells : List Char → Numeral → Prop
  | intro {n : Numeral} {exponent : List Char} (canonical : n.IsCanonical)
    (spelled : SpellsExponent exponent n.exponent) :
    Spells (sign n.negative ++ (spell n.whole ++ (fractionText n.fraction ++ exponent))) n

/-! ### What is written is a spelling -/

/-- An exponent as it is printed is one of its spellings. -/
theorem spellsExponent_exponentText (exponent : Option Int) :
    SpellsExponent (exponentText exponent) exponent := by
  cases exponent with
  | none => exact .absent
  | some e =>
    by_cases negative : e < 0
    · have value : -(e.natAbs : Int) = e := by omega
      have spelled : SpellsExponent ('e' :: '-' :: spell (digits e.natAbs))
          (some (-(valueOf (digits e.natAbs) : Int))) := .minus (.inl rfl) (digits_ne_nil _)
      rw [valueOf_digits, value] at spelled
      rwa [exponentText, if_pos negative]
    · have value : (e.natAbs : Int) = e := by omega
      have spelled : SpellsExponent ('e' :: '+' :: spell (digits e.natAbs))
          (some (valueOf (digits e.natAbs) : Int)) := .plus (.inl rfl) (digits_ne_nil _)
      rw [valueOf_digits, value] at spelled
      rwa [exponentText, if_neg negative]

/-- The text of a numeral in canonical form is a spelling of it. -/
theorem spells_text {n : Numeral} (canonical : n.IsCanonical) : Spells n.text n := by
  simp only [text, List.append_assoc]
  exact .intro canonical (spellsExponent_exponentText n.exponent)

/-! ### What is read is a spelling -/

theorem take?_sign_append {negative : Bool} {cs : List Char}
    (h : negative = false → cs.head? ≠ some '-') :
    take? (sign negative ++ cs) = (do
      let (whole, cs) ← takeWhole? cs
      let (fraction, cs) ← takeFraction? cs
      let (exponent, cs) ← takeExponent? cs
      return (⟨negative, whole, fraction, exponent⟩, cs)) := by
  cases negative with
  | true => rfl
  | false =>
    rw [take?]
    · rfl
    · intro rest hyphen
      exact absurd (congrArg List.head? hyphen) (h rfl)

theorem spell_of_takeWhole? {cs rest : List Char} {ds : List Digit}
    (h : takeWhole? cs = some (ds, rest)) :
    cs = spell ds ++ rest ∧ ds ≠ [] ∧ (ds.head? = some 0 → ds = [0]) := by
  rw [takeWhole?] at h
  split at h
  · cases h
  · rename_i d more after digits
    split at h
    · cases h
    · rename_i alone
      obtain ⟨rfl, rfl⟩ := Prod.mk.inj (Option.some.inj h)
      refine ⟨eq_append_of_takeDigits digits, List.cons_ne_nil d more, fun zero => ?_⟩
      obtain rfl : d = 0 := Option.some.inj zero
      simpa using alone

theorem fractionText_of_takeFraction? {cs rest : List Char} {ds : List Digit}
    (h : takeFraction? cs = some (ds, rest)) : cs = fractionText ds ++ rest := by
  rw [takeFraction?.eq_def] at h
  split at h
  · split at h
    · cases h
    · rename_i nonempty read
      obtain ⟨rfl, rfl⟩ := Prod.mk.inj (Option.some.inj h)
      rw [fractionText, if_neg (by simpa using nonempty), eq_append_of_takeDigits read,
        List.cons_append]
  · obtain ⟨rfl, rfl⟩ := Prod.mk.inj (Option.some.inj h)
    rfl

theorem spell_of_takeExponentDigits? {negative : Bool} {cs rest : List Char} {e : Option Int}
    (h : takeExponentDigits? negative cs = some (e, rest)) :
    ∃ ds, ds ≠ [] ∧ cs = spell ds ++ rest ∧
      e = some (if negative then -(valueOf ds : Int) else valueOf ds) := by
  rw [takeExponentDigits?] at h
  split at h
  · cases h
  · rename_i nonempty read
    obtain ⟨rfl, rfl⟩ := Prod.mk.inj (Option.some.inj h)
    exact ⟨_, nonempty, eq_append_of_takeDigits read, rfl⟩

/-- Soundness: the exponent that is read is spelled by what was taken. -/
theorem exists_spellsExponent_of_takeExponent? {cs rest : List Char} {e : Option Int}
    (h : takeExponent? cs = some (e, rest)) :
    ∃ text, SpellsExponent text e ∧ cs = text ++ rest := by
  cases cs with
  | nil =>
    obtain ⟨rfl, rfl⟩ := Prod.mk.inj (Option.some.inj h)
    exact ⟨[], .absent, rfl⟩
  | cons mark cs =>
    rw [takeExponent?.eq_def] at h
    dsimp only at h
    split at h
    · rename_i isMark
      have isMark : mark = 'e' ∨ mark = 'E' := by simpa using isMark
      split at h
      · obtain ⟨ds, nonempty, rfl, rfl⟩ := spell_of_takeExponentDigits? h
        exact ⟨_, .plus isMark nonempty, rfl⟩
      · obtain ⟨ds, nonempty, rfl, rfl⟩ := spell_of_takeExponentDigits? h
        exact ⟨_, .minus isMark nonempty, rfl⟩
      · obtain ⟨ds, nonempty, rfl, rfl⟩ := spell_of_takeExponentDigits? h
        exact ⟨_, .unsigned isMark nonempty, rfl⟩
    · obtain ⟨rfl, rfl⟩ := Prod.mk.inj (Option.some.inj h)
      exact ⟨[], .absent, rfl⟩

theorem exists_eq_sign_append (cs : List Char) :
    ∃ negative unsigned, cs = sign negative ++ unsigned ∧
      (negative = false → unsigned.head? ≠ some '-') := by
  by_cases hyphen : cs.head? = some '-'
  · obtain ⟨unsigned, rfl⟩ := List.head?_eq_some_iff.1 hyphen
    exact ⟨true, unsigned, rfl, by simp⟩
  · exact ⟨false, cs, rfl, fun _ => hyphen⟩

/-- What is read from a text is a spelling in front of it. -/
theorem exists_spells_of_take? {cs rest : List Char} {n : Numeral}
    (h : take? cs = some (n, rest)) : ∃ text, Spells text n ∧ cs = text ++ rest := by
  obtain ⟨negative, unsigned, rfl, single⟩ := exists_eq_sign_append cs
  rw [take?_sign_append single] at h
  simp only [Option.bind_eq_bind, Option.bind_eq_some_iff, Option.pure_def, Option.some.injEq,
    Prod.mk.injEq, Prod.exists] at h
  obtain ⟨whole, afterWhole, readWhole, fraction, afterFraction, readFraction, exponent,
    afterExponent, readExponent, rfl, rfl⟩ := h
  obtain ⟨rfl, nonempty, noLeadingZero⟩ := spell_of_takeWhole? readWhole
  obtain rfl := fractionText_of_takeFraction? readFraction
  obtain ⟨text, spelled, rfl⟩ := exists_spellsExponent_of_takeExponent? readExponent
  refine ⟨_, .intro ⟨nonempty, noLeadingZero⟩ spelled, ?_⟩
  simp only [List.append_assoc]

/-! ### Every spelling is read -/

theorem takeExponentDigits?_spell_append (negative : Bool) {ds : List Digit} (nonempty : ds ≠ [])
    {rest : List Char} (h : StartsNoDigit rest) :
    takeExponentDigits? negative (spell ds ++ rest) =
      some (some (if negative then -(valueOf ds : Int) else valueOf ds), rest) := by
  rw [takeExponentDigits?, takeDigits_spell_append _ h]
  split
  · rename_i empty
    exact absurd (congrArg Prod.fst empty) nonempty
  · rename_i read
    obtain ⟨rfl, rfl⟩ := Prod.mk.inj read
    rfl

/-- Completeness: every spelling of an exponent is read where no number goes on. -/
theorem takeExponent?_of_spellsExponent {text : List Char} {e : Option Int}
    (spelled : SpellsExponent text e) {rest : List Char} (h : Ends rest) :
    takeExponent? (text ++ rest) = some (e, rest) := by
  cases spelled with
  | absent =>
    cases rest with
    | nil => rfl
    | cons c rest =>
      obtain ⟨-, lower, upper⟩ : c ≠ '.' ∧ c ≠ 'e' ∧ c ≠ 'E' := h.2 c rfl
      simp [takeExponent?, lower, upper]
  | @unsigned mark ds isMark nonempty =>
    obtain ⟨d, ds, rfl⟩ := List.exists_cons_of_ne_nil nonempty
    have digit : ∀ d : Digit, d.toChar ≠ '+' ∧ d.toChar ≠ '-' := by decide
    have read := takeExponentDigits?_spell_append false nonempty h.1
    rw [spell, List.map_cons, List.cons_append] at read ⊢
    rw [takeExponent?.eq_def]
    simp only [isMark, decide_eq_true_eq, Bool.or_eq_true, if_true]
    split
    · rename_i plus
      exact absurd (List.cons.inj plus).1 (digit d).1
    · rename_i minus
      exact absurd (List.cons.inj minus).1 (digit d).2
    · exact read
  | @plus mark ds isMark nonempty =>
    have read := takeExponentDigits?_spell_append false nonempty h.1
    simpa [takeExponent?, isMark] using read
  | @minus mark ds isMark nonempty =>
    have read := takeExponentDigits?_spell_append true nonempty h.1
    simpa [takeExponent?, isMark] using read

theorem startsNoDigit_of_spellsExponent {text : List Char} {e : Option Int}
    (spelled : SpellsExponent text e) {rest : List Char} (h : Ends rest) :
    StartsNoDigit (text ++ rest) ∧ ∀ c ∈ (text ++ rest).head?, c ≠ '.' := by
  have noDigit : ∀ mark, mark = 'e' ∨ mark = 'E' → digit? mark = none ∧ mark ≠ '.' := by
    rintro _ (rfl | rfl) <;> decide
  cases spelled with
  | absent => exact ⟨h.1, fun c first => (h.2 c first).1⟩
  | unsigned isMark _ | plus isMark _ | minus isMark _ =>
    exact ⟨startsNoDigit_cons (noDigit _ isMark).1 _, by simpa using (noDigit _ isMark).2⟩

/-- A spelling is read from every text that does not go on with it. -/
theorem take?_of_spells {text : List Char} {n : Numeral} (spelled : Spells text n)
    {rest : List Char} (h : Ends rest) : take? (text ++ rest) = some (n, rest) := by
  obtain ⟨canonical, exponent⟩ := spelled
  obtain ⟨noDigit, noPoint⟩ := startsNoDigit_of_spellsExponent exponent h
  have whole := takeWhole?_spell_append canonical (startsNoDigit_fractionText n.fraction noDigit)
  have fraction := takeFraction?_append n.fraction noDigit noPoint
  have unsigned (rest : List Char) : (spell n.whole ++ rest).head? ≠ some '-' := by
    obtain ⟨d, ds, digits⟩ := List.exists_cons_of_ne_nil canonical.whole
    have noHyphen : ∀ d : Digit, d.toChar ≠ '-' := by decide
    simpa [digits, spell] using noHyphen d
  simp only [List.append_assoc]
  rw [take?_sign_append fun _ => unsigned _, whole]
  simp [fraction, takeExponent?_of_spellsExponent exponent h]

end Numeral

end EstateSearch.Decimal
