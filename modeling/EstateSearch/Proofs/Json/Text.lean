import EstateSearch.Json.Text

/-!
# The grammar of string literals

`IsLiteral` relates a text to every literal that stands for it: a character may stand for itself,
unless it is a quote, a backslash or a control character, and it may be written with a short escape
or with its code. The reader accepts these literals and nothing else (`takeText?_of_isLiteral`,
`isLiteral_of_takeText?`), and what is written for a text is one of them (`isLiteral_quoted`).

Whichever way a character is written, it is one unit that joins to it again
(`exists_unit_of_encodeChar`). No unit of a written literal is half of a surrogate pair, so the
units are joined one by one.
-/

set_option autoImplicit false

namespace EstateSearch.Json

/-! ### Literals -/

/-- The characters write one unit of a literal. -/
inductive SpellsUnit : List Char → TextUnit → Prop
  | plain {c : Char} (noQuote : c ≠ '"') (noEscape : c ≠ '\\') (noControl : ¬ c.toNat < 0x20) :
    SpellsUnit [c] (.plain c)
  | escape {e c : Char} (short : shortEscape? e = some c) : SpellsUnit ['\\', e] (.plain c)
  | code {a b c d : Char} {n : Nat} (hex : hexCode? a b c d = some n) :
    SpellsUnit ['\\', 'u', a, b, c, d] (.code n)

/-- The characters write units of a literal, one after the other. -/
inductive SpellsUnits : List Char → List TextUnit → Prop
  | nil : SpellsUnits [] []
  | cons {cs rest : List Char} {unit : TextUnit} {units : List TextUnit}
    (first : SpellsUnit cs unit) (more : SpellsUnits rest units) :
    SpellsUnits (cs ++ rest) (unit :: units)

/-- The literal stands for the text, or for no text where half of a surrogate pair is alone. -/
inductive IsLiteral : List Char → Option String → Prop
  | quotes {body : List Char} {units : List TextUnit} (spelled : SpellsUnits body units) :
    IsLiteral ('"' :: (body ++ ['"'])) ((joinUnits? units).map String.ofList)

/-! ### Reading literals -/

theorem takeUnits?_plain {c : Char} (noQuote : c ≠ '"') (noEscape : c ≠ '\\')
    (noControl : ¬ c.toNat < 0x20) (cs : List Char) :
    takeUnits? (c :: cs) =
      (takeUnits? cs).map fun (units, after) => (.plain c :: units, after) := by
  have kept : ¬ (c = '\\' || decide (c.toNat < 0x20)) = true := by simp [noEscape, noControl]
  rw [takeUnits?, if_neg kept]
  · cases takeUnits? cs <;> rfl
  · exact noQuote
  · rintro _ _ _ _ _ rfl
    exact absurd rfl noEscape
  · rintro _ _ rfl
    exact absurd rfl noEscape

theorem takeUnits?_shortEscape {e c : Char} (noCode : e ≠ 'u') (escape : shortEscape? e = some c)
    (cs : List Char) :
    takeUnits? ('\\' :: e :: cs) =
      (takeUnits? cs).map fun (units, after) => (.plain c :: units, after) := by
  rw [takeUnits?, escape]
  · cases takeUnits? cs <;> rfl
  · rintro _ _ _ _ _ rfl
    exact absurd rfl noCode

theorem takeUnits?_code {a b c d : Char} {n : Nat} (code : hexCode? a b c d = some n)
    (cs : List Char) :
    takeUnits? ('\\' :: 'u' :: a :: b :: c :: d :: cs) =
      (takeUnits? cs).map fun (units, after) => (.code n :: units, after) := by
  rw [takeUnits?, code]
  cases takeUnits? cs <;> rfl

/-- Every spelling of a unit is read, and the reader goes on behind it. -/
theorem takeUnits?_of_spellsUnit {cs : List Char} {unit : TextUnit} (spelled : SpellsUnit cs unit)
    (rest : List Char) :
    takeUnits? (cs ++ rest) =
      (takeUnits? rest).map fun (units, after) => (unit :: units, after) := by
  cases spelled with
  | plain noQuote noEscape noControl => exact takeUnits?_plain noQuote noEscape noControl rest
  | @escape e c short =>
    have noCode : e ≠ 'u' := by
      rintro rfl
      cases short
    exact takeUnits?_shortEscape noCode short rest
  | code hex => exact takeUnits?_code hex rest

/-- Every spelling of units is read up to the closing quote. -/
theorem takeUnits?_of_spellsUnits {body : List Char} {units : List TextUnit}
    (spelled : SpellsUnits body units) (rest : List Char) :
    takeUnits? (body ++ '"' :: rest) = some (units, rest) := by
  induction spelled with
  | nil => simp [takeUnits?]
  | cons first _ ih =>
    rw [List.append_assoc, takeUnits?_of_spellsUnit first, ih, Option.map_some]

/-- Soundness: what is read before the closing quote spells the units. -/
theorem spellsUnits_of_takeUnits? {cs rest : List Char} {units : List TextUnit}
    (h : takeUnits? cs = some (units, rest)) :
    ∃ body, SpellsUnits body units ∧ cs = body ++ '"' :: rest := by
  fun_induction takeUnits? cs generalizing units with
  | case1 => cases h
  | case2 rest =>
    obtain ⟨rfl, rfl⟩ := Prod.mk.inj (Option.some.inj h)
    exact ⟨[], .nil, rfl⟩
  | case3 a b c d rest ih =>
    simp only [Option.bind_eq_bind, Option.bind_eq_some_iff, Option.pure_def, Option.some.injEq,
      Prod.mk.injEq, Prod.exists] at h
    obtain ⟨n, hex, units, after, read, rfl, rfl⟩ := h
    obtain ⟨body, spelled, rfl⟩ := ih read
    exact ⟨_, .cons (.code hex) spelled, rfl⟩
  | case4 e rest _ ih =>
    simp only [Option.bind_eq_bind, Option.bind_eq_some_iff, Option.pure_def, Option.some.injEq,
      Prod.mk.injEq, Prod.exists] at h
    obtain ⟨c, short, units, after, read, rfl, rfl⟩ := h
    obtain ⟨body, spelled, rfl⟩ := ih read
    exact ⟨_, .cons (.escape short) spelled, rfl⟩
  | case5 => cases h
  | case6 c rest noQuote _ _ kept ih =>
    simp only [Option.bind_eq_bind, Option.bind_eq_some_iff, Option.pure_def, Option.some.injEq,
      Prod.mk.injEq, Prod.exists] at h
    obtain ⟨units, after, read, rfl, rfl⟩ := h
    obtain ⟨body, spelled, rfl⟩ := ih read
    simp only [Bool.or_eq_true, decide_eq_true_eq, not_or] at kept
    exact ⟨_, .cons (.plain noQuote kept.1 kept.2) spelled, rfl⟩

theorem takeText?_of_isLiteral {literal : List Char} {text : Option String}
    (h : IsLiteral literal text) :
    ∃ body, literal = '"' :: body ∧ ∀ rest, takeText? (body ++ rest) = some (text, rest) := by
  obtain ⟨spelled⟩ := h
  refine ⟨_, rfl, fun rest => ?_⟩
  rw [List.append_assoc, List.singleton_append, takeText?, takeUnits?_of_spellsUnits spelled,
    Option.map_some]

/-- Soundness for literals: what is taken, with its opening quote, is a literal of the text. -/
theorem isLiteral_of_takeText? {cs rest : List Char} {text : Option String}
    (h : takeText? cs = some (text, rest)) :
    ∃ literal, IsLiteral literal text ∧ '"' :: cs = literal ++ rest := by
  simp only [takeText?, Option.map_eq_some_iff, Prod.exists, Prod.mk.injEq] at h
  obtain ⟨units, after, read, rfl, rfl⟩ := h
  obtain ⟨body, spelled, rfl⟩ := spellsUnits_of_takeUnits? read
  exact ⟨_, .quotes spelled, by simp⟩

/-! ### Joining units -/

/-- The unit stands for the character, whatever other units follow. -/
def IsUnitOf (unit : TextUnit) (c : Char) : Prop :=
  ∀ units, joinUnits? (unit :: units) = (joinUnits? units).map (c :: ·)

theorem isUnitOf_plain (c : Char) : IsUnitOf (.plain c) c := fun _ => by rw [joinUnits?]

/-- The code of a control character is no half of a surrogate pair. -/
theorem isUnitOf_code {c : Char} (control : c.toNat < 0x20) : IsUnitOf (.code c.toNat) c := by
  have noHigh : isHighHalf c.toNat = false := by
    rw [isHighHalf, Bool.and_eq_false_iff]
    exact .inl (by simp only [decide_eq_false_iff_not]; omega)
  have noLow : isLowHalf c.toNat = false := by
    rw [isLowHalf, Bool.and_eq_false_iff]
    exact .inl (by simp only [decide_eq_false_iff_not]; omega)
  intro units
  match units with
  | [] => simp [joinUnits?, noHigh, noLow]
  | .plain d :: units => simp [joinUnits?, noHigh, noLow]
  | .code low :: units => rw [joinUnits?.eq_3]; simp [noHigh, noLow]

/-! ### Writing literals -/

/-- Control characters are written with four digits of which the first two are zero. -/
theorem hexCode?_hexDigit {n : Nat} (h : n < 0x20) :
    hexCode? '0' '0' (hexDigit (n / 16)) (hexDigit (n % 16)) = some n := by
  revert n
  decide

/-- A character is written with a short escape, with its code, or as it is. -/
theorem encodeChar_cases (c : Char) :
    (∃ e, shortEscape? e = some c ∧ encodeChar c = ['\\', e]) ∨
      (c.toNat < 0x20 ∧ encodeChar c =
        ['\\', 'u', '0', '0', hexDigit (c.toNat / 16), hexDigit (c.toNat % 16)]) ∨
      (c ≠ '"' ∧ c ≠ '\\' ∧ ¬ c.toNat < 0x20 ∧ encodeChar c = [c]) := by
  by_cases short : c ∈ ['"', '\\', '\x08', '\x0C', '\n', '\r', '\t']
  · refine .inl ?_
    simp only [List.mem_cons, List.not_mem_nil, or_false] at short
    rcases short with rfl | rfl | rfl | rfl | rfl | rfl | rfl
    · exact ⟨'"', rfl, rfl⟩
    · exact ⟨'\\', rfl, rfl⟩
    · exact ⟨'b', rfl, rfl⟩
    · exact ⟨'f', rfl, rfl⟩
    · exact ⟨'n', rfl, rfl⟩
    · exact ⟨'r', rfl, rfl⟩
    · exact ⟨'t', rfl, rfl⟩
  · simp only [List.mem_cons, List.not_mem_nil, or_false, not_or] at short
    by_cases control : c.toNat < 0x20
    · exact .inr (.inl ⟨control, by simp [encodeChar, short, control]⟩)
    · exact .inr (.inr ⟨short.1, short.2.1, control, by simp [encodeChar, short, control]⟩)

/-- The characters that stand for a character are one unit, which stands for it too. -/
theorem exists_unit_of_encodeChar (c : Char) :
    ∃ unit, SpellsUnit (encodeChar c) unit ∧ IsUnitOf unit c := by
  rcases encodeChar_cases c with ⟨e, short, written⟩ | ⟨control, written⟩ |
    ⟨noQuote, noEscape, noControl, written⟩
  · exact ⟨.plain c, written ▸ .escape short, isUnitOf_plain c⟩
  · exact ⟨.code c.toNat, written ▸ .code (hexCode?_hexDigit control), isUnitOf_code control⟩
  · exact ⟨.plain c, written ▸ .plain noQuote noEscape noControl, isUnitOf_plain c⟩

/-- What is printed between the quotes spells units that join to the text again. -/
theorem exists_units_of_encode (text : List Char) :
    ∃ units, SpellsUnits (encode text) units ∧ joinUnits? units = some text := by
  induction text with
  | nil => exact ⟨[], .nil, rfl⟩
  | cons c text ih =>
    obtain ⟨units, spelled, joined⟩ := ih
    obtain ⟨unit, first, stands⟩ := exists_unit_of_encodeChar c
    have parts : encode (c :: text) = encodeChar c ++ encode text := rfl
    exact ⟨unit :: units, parts ▸ .cons first spelled, by rw [stands, joined, Option.map_some]⟩

/-- What is written for a text is a literal of it. -/
theorem isLiteral_quoted (text : String) : IsLiteral (quoted text) (some text) := by
  obtain ⟨units, spelled, joined⟩ := exists_units_of_encode text.toList
  have literal := IsLiteral.quotes spelled
  rwa [joined, Option.map_some, String.ofList_toList] at literal

end EstateSearch.Json
