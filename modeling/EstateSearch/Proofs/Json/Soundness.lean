import EstateSearch.Proofs.Json.Grammar

/-!
# What the reader of JSON accepts

The reader takes texts of the grammar and nothing else, so it accepts exactly those
(`ofString?_eq_some_iff`). The three readers call each other; the proof goes by the number that they
count down, for all three at once (`takes`). A part of a text takes the space behind it along, up to
the comma or bracket that the reader finds there.
-/

set_option autoImplicit false

namespace EstateSearch.Json

open Decimal

theorem exists_space (cs : List Char) : ∃ space, IsBlank space ∧ cs = space ++ skipSpace cs :=
  ⟨cs.takeWhile isSpace, List.all_eq_true.1 List.all_takeWhile,
    List.takeWhile_append_dropWhile.symm⟩

/-- What is written behind space is written with the space. -/
theorem exists_writes_of_skipSpace {cs core rest : List Char} {value : Json}
    (skipped : skipSpace cs = core ++ rest) (written : Writes core value) :
    ∃ text, Writes text value ∧ cs = text ++ rest := by
  obtain ⟨space, blank, parts⟩ := exists_space cs
  have spaced : Writes (space ++ (core ++ [])) value := .spaced blank (by simp [IsBlank]) written
  exact ⟨_, spaced, by rw [parts, skipped]; simp⟩

/-- What is written before space is written with the space. -/
theorem exists_writes_append {text after rest : List Char} {value : Json}
    (written : Writes text value) (skipped : skipSpace after = rest) :
    ∃ spaced, Writes spaced value ∧ text ++ after = spaced ++ rest := by
  obtain ⟨space, blank, parts⟩ := exists_space after
  have spaced : Writes ([] ++ (text ++ space)) value := .spaced (by simp [IsBlank]) blank written
  exact ⟨_, spaced, by rw [parts, skipped]; simp⟩

/-- The reader of values takes texts of the grammar. -/
def TakesValues (bound : Nat) : Prop :=
  ∀ {cs rest value}, takeValue? bound cs = some (value, rest) →
    ∃ text, Writes text value ∧ cs = text ++ rest

def TakesItems (bound : Nat) : Prop :=
  ∀ {cs rest items}, takeItems? bound cs = some (items, rest) →
    ∃ parts : List (List Char × Json), parts ≠ [] ∧ (∀ part ∈ parts, Writes part.1 part.2) ∧
      items = parts.map (·.2) ∧ cs = commaSeparated (parts.map (·.1)) ++ ']' :: rest

def TakesMembers (bound : Nat) : Prop :=
  ∀ {cs rest members}, takeMembers? bound cs = some (members, rest) →
    ∃ parts : List WrittenMember, parts ≠ [] ∧
      (∀ part ∈ parts, Writes part.keyText (.string part.key)) ∧
      (∀ part ∈ parts, Writes part.valueText part.value) ∧
      members = parts.map (·.member) ∧ cs = commaSeparated (parts.map (·.text)) ++ '}' :: rest

/-- The reader of values takes one character at least, then items or members with a smaller
bound. -/
theorem takesValues_succ {bound : Nat} (takesItems : TakesItems bound)
    (takesMembers : TakesMembers bound) : TakesValues (bound + 1) := by
  intro cs rest value read
  rw [takeValue?.eq_def] at read
  dsimp only at read
  -- One case for each start of a value, in the order in which the reader looks for them.
  split at read
  · cases read
  · rename_i skipped
    obtain ⟨rfl, rfl⟩ := Prod.mk.inj (Option.some.inj read)
    exact exists_writes_of_skipSpace skipped .null
  · rename_i skipped
    obtain ⟨rfl, rfl⟩ := Prod.mk.inj (Option.some.inj read)
    exact exists_writes_of_skipSpace skipped .true
  · rename_i skipped
    obtain ⟨rfl, rfl⟩ := Prod.mk.inj (Option.some.inj read)
    exact exists_writes_of_skipSpace skipped .false
  · rename_i skipped
    simp only [Option.map_eq_some_iff, Prod.exists, Prod.mk.injEq] at read
    obtain ⟨text, after, literal, rfl, rfl⟩ := read
    obtain ⟨literal, isLiteral, parts⟩ := isLiteral_of_takeText? literal
    exact exists_writes_of_skipSpace (skipped.trans parts) (.string isLiteral)
  · rename_i inner skipped
    split at read
    · rename_i closed
      obtain ⟨rfl, rfl⟩ := Prod.mk.inj (Option.some.inj read)
      obtain ⟨space, blank, parts⟩ := exists_space inner
      refine exists_writes_of_skipSpace ?_ (.emptyArray blank)
      rw [skipped, parts, closed]
      simp
    · simp only [Option.map_eq_some_iff, Prod.exists, Prod.mk.injEq] at read
      obtain ⟨items, after, items', rfl, rfl⟩ := read
      obtain ⟨parts, nonempty, each, rfl, rfl⟩ := takesItems items'
      refine exists_writes_of_skipSpace ?_ (.array nonempty each)
      rw [skipped]
      simp
  · rename_i inner skipped
    split at read
    · rename_i closed
      obtain ⟨rfl, rfl⟩ := Prod.mk.inj (Option.some.inj read)
      obtain ⟨space, blank, parts⟩ := exists_space inner
      refine exists_writes_of_skipSpace ?_ (.emptyObject blank)
      rw [skipped, parts, closed]
      simp
    · simp only [Option.map_eq_some_iff, Prod.exists, Prod.mk.injEq] at read
      obtain ⟨members, after, members', rfl, rfl⟩ := read
      obtain ⟨parts, nonempty, keys, values, rfl, rfl⟩ := takesMembers members'
      refine exists_writes_of_skipSpace ?_ (.object nonempty keys values)
      rw [skipped]
      simp
  · simp only [Option.map_eq_some_iff, Prod.exists, Prod.mk.injEq] at read
    obtain ⟨n, after, numeral, rfl, rfl⟩ := read
    obtain ⟨text, spelled, parts⟩ := Numeral.exists_spells_of_take? numeral
    exact exists_writes_of_skipSpace parts (.number spelled)

/-- An item is followed by the closing bracket, or by a comma and further items. -/
theorem takesItems_succ {bound : Nat} (takesValues : TakesValues bound)
    (takesItems : TakesItems bound) : TakesItems (bound + 1) := by
  intro cs rest items read
  simp only [takeItems?, Option.bind_eq_bind, Option.bind_eq_some_iff, Prod.exists] at read
  obtain ⟨item, after, value, read⟩ := read
  obtain ⟨text, written, rfl⟩ := takesValues value
  split at read
  · rename_i closed
    obtain ⟨rfl, rfl⟩ := Prod.mk.inj (Option.some.inj read)
    obtain ⟨text', written', spaced⟩ := exists_writes_append written closed
    exact ⟨[(text', item)], by simp, by simpa using written', rfl, by
      rw [spaced, List.map_singleton, commaSeparated_singleton]⟩
  · rename_i comma
    simp only [Option.bind_eq_some_iff, Prod.exists, Option.pure_def, Option.some.injEq,
      Prod.mk.injEq] at read
    obtain ⟨items, after', more, rfl, rfl⟩ := read
    obtain ⟨text', written', spaced⟩ := exists_writes_append written comma
    obtain ⟨parts, nonempty, each, rfl, rfl⟩ := takesItems more
    obtain ⟨part, parts, rfl⟩ := List.exists_cons_of_ne_nil nonempty
    refine ⟨(text', item) :: part :: parts, by simp, List.forall_mem_cons.2 ⟨written', each⟩,
      rfl, ?_⟩
    rw [spaced]
    simp [commaSeparated_cons_cons]
  · cases read

/-- A member is followed by the closing brace, or by a comma and further members. -/
theorem takesMembers_succ {bound : Nat} (takesValues : TakesValues bound)
    (takesMembers : TakesMembers bound) : TakesMembers (bound + 1) := by
  intro cs rest members read
  rw [takeMembers?] at read
  split at read
  · rename_i afterQuote quote
    simp only [Option.bind_eq_bind, Option.bind_eq_some_iff, Prod.exists] at read
    obtain ⟨key, afterKey, literal, read⟩ := read
    split at read
    · rename_i afterColon colon
      simp only [Option.bind_eq_some_iff, Prod.exists] at read
      obtain ⟨value, afterValue, taken, read⟩ := read
      obtain ⟨literal, isLiteral, parts⟩ := isLiteral_of_takeText? literal
      obtain ⟨text, written, rfl⟩ :=
        exists_writes_of_skipSpace (quote.trans parts) (.string isLiteral)
      obtain ⟨keyText, writtenKey, spacedKey⟩ := exists_writes_append written colon
      obtain ⟨text', writtenValue, rfl⟩ := takesValues taken
      split at read
      · rename_i closed
        obtain ⟨rfl, rfl⟩ := Prod.mk.inj (Option.some.inj read)
        obtain ⟨valueText, writtenValue, spaced⟩ := exists_writes_append writtenValue closed
        refine ⟨[⟨keyText, key, valueText, value⟩], by simp, by simpa using writtenKey,
          by simpa using writtenValue, rfl, ?_⟩
        rw [spacedKey, spaced]
        simp [commaSeparated_singleton, WrittenMember.text]
      · rename_i comma
        simp only [Option.bind_eq_some_iff, Prod.exists, Option.pure_def, Option.some.injEq,
          Prod.mk.injEq] at read
        obtain ⟨members, after, more, rfl, rfl⟩ := read
        obtain ⟨valueText, writtenValue, spaced⟩ := exists_writes_append writtenValue comma
        obtain ⟨parts, nonempty, keys, values, rfl, rfl⟩ := takesMembers more
        obtain ⟨part, parts, rfl⟩ := List.exists_cons_of_ne_nil nonempty
        refine ⟨⟨keyText, key, valueText, value⟩ :: part :: parts, by simp,
          List.forall_mem_cons.2 ⟨writtenKey, keys⟩, List.forall_mem_cons.2 ⟨writtenValue, values⟩,
          rfl, ?_⟩
        rw [spacedKey, spaced]
        simp [commaSeparated_cons_cons, WrittenMember.text]
      · cases read
    · cases read
  · cases read

/-- What the readers take are texts of the grammar, however far they count. -/
theorem takes (bound : Nat) : TakesValues bound ∧ TakesItems bound ∧ TakesMembers bound := by
  induction bound with
  | zero =>
    refine ⟨fun read => ?_, fun read => ?_, fun read => ?_⟩
    · rw [takeValue?] at read
      cases read
    · rw [takeItems?] at read
      cases read
    · rw [takeMembers?] at read
      cases read
  | succ bound ih =>
    obtain ⟨values, items, members⟩ := ih
    exact ⟨takesValues_succ items members, takesItems_succ values items,
      takesMembers_succ values members⟩

/-- The reader accepts the texts of the grammar, and no others. -/
theorem ofString?_eq_some_iff {text : String} {value : Json} :
    Json.ofString? text = some value ↔ Writes text.toList value := by
  rw [Json.ofString?, parse?]
  constructor
  · intro read
    simp only [Option.bind_eq_bind, Option.bind_eq_some_iff, Prod.exists] at read
    obtain ⟨value', after, taken, ended⟩ := read
    split at ended
    · rename_i blank
      obtain rfl := Option.some.inj ended
      obtain ⟨core, written, parts⟩ := (takes _).1 taken
      obtain ⟨spaced, written', parts'⟩ :=
        exists_writes_append written (List.isEmpty_iff.1 blank)
      rwa [parts, parts', List.append_nil]
    · cases ended
  · intro written
    obtain ⟨after, read, skipped⟩ :=
      isTaken_of_writes written (text.toList.length + 1) [] (Nat.le_succ _) Numeral.ends_nil
    rw [List.append_nil] at read
    rw [read, Option.bind_eq_bind, Option.bind_some]
    exact if_pos (by rw [skipped]; rfl)

end EstateSearch.Json
