import EstateSearch.Json.Parser
import EstateSearch.Proofs.Decimal.Spelling
import EstateSearch.Proofs.Json.Text

/-!
# The grammar of JSON texts

`Writes` relates a value to every text that writes it: with space wherever it may stand, every
spelling of a numeral, every way to escape a character, and parts nested to any depth. All these
texts are read (`isTaken_of_writes`); `Proofs.Json.Soundness` shows that no others are.

The proof goes by the derivation of the text. What follows the text is left open, but it must not go
on with a number. The number that the reader counts down may be any one from the length of the text
on: each step into an array or object takes a character away on either side.
-/

set_option autoImplicit false

namespace EstateSearch.Json

open Decimal

/-! ### Values -/

def IsBlank (space : List Char) : Prop := ∀ c ∈ space, isSpace c = true

structure WrittenMember where
  keyText : List Char
  key : Option String
  valueText : List Char
  value : Json

namespace WrittenMember

def text (m : WrittenMember) : List Char := m.keyText ++ ':' :: m.valueText

def member (m : WrittenMember) : Option String × Json := (m.key, m.value)

end WrittenMember

def commaSeparated (texts : List (List Char)) : List Char := [','].intercalate texts

/-- The text writes the value. -/
inductive Writes : List Char → Json → Prop
  | null : Writes ['n', 'u', 'l', 'l'] .null
  | true : Writes ['t', 'r', 'u', 'e'] (.boolean .true)
  | false : Writes ['f', 'a', 'l', 's', 'e'] (.boolean .false)
  | number {text : List Char} {n : Numeral} (spelled : n.Spells text) : Writes text (.number n)
  | string {literal : List Char} {text : Option String} (isLiteral : IsLiteral literal text) :
    Writes literal (.string text)
  | emptyArray {space : List Char} (blank : IsBlank space) :
    Writes ('[' :: (space ++ [']'])) (.array [])
  | array {parts : List (List Char × Json)} (nonempty : parts ≠ [])
    (each : ∀ part ∈ parts, Writes part.1 part.2) :
    Writes ('[' :: (commaSeparated (parts.map (·.1)) ++ [']'])) (.array (parts.map (·.2)))
  | emptyObject {space : List Char} (blank : IsBlank space) :
    Writes ('{' :: (space ++ ['}'])) (.object [])
  | object {parts : List WrittenMember} (nonempty : parts ≠ [])
    (keys : ∀ part ∈ parts, Writes part.keyText (.string part.key))
    (values : ∀ part ∈ parts, Writes part.valueText part.value) :
    Writes ('{' :: (commaSeparated (parts.map (·.text)) ++ ['}'])) (.object (parts.map (·.member)))
  | spaced {before text after : List Char} {value : Json} (blankBefore : IsBlank before)
    (blankAfter : IsBlank after) (written : Writes text value) :
    Writes (before ++ (text ++ after)) value

/-! ### Commas -/

theorem commaSeparated_singleton (text : List Char) : commaSeparated [text] = text := by
  simp [commaSeparated]

theorem commaSeparated_cons_cons (first second : List Char) (more : List (List Char)) :
    commaSeparated (first :: second :: more) = first ++ ',' :: commaSeparated (second :: more) := by
  simp [commaSeparated]

/-- Whatever comes after it, the first text stands in front. -/
theorem exists_commaSeparated_append (first : List Char) (texts : List (List Char))
    (rest : List Char) : ∃ more, commaSeparated (first :: texts) ++ rest = first ++ more := by
  cases texts with
  | nil => exact ⟨rest, by rw [commaSeparated_singleton]⟩
  | cons second texts => exact ⟨_, by rw [commaSeparated_cons_cons, List.append_assoc]⟩

/-! ### Space -/

theorem skipSpace_cons {c : Char} (h : isSpace c = false) (cs : List Char) :
    skipSpace (c :: cs) = c :: cs := by
  rw [skipSpace, List.dropWhile_cons_of_neg (by simp [h])]

/-- Space in front of space is skipped along with it. -/
theorem skipSpace_append {space : List Char} (blank : IsBlank space) (cs : List Char) :
    skipSpace (space ++ cs) = skipSpace cs := by
  induction space with
  | nil => rfl
  | cons c space ih =>
    obtain ⟨first, more⟩ := List.forall_mem_cons.1 blank
    rw [List.cons_append, skipSpace, List.dropWhile_cons_of_pos first]
    exact ih more

theorem skipSpace_append_cons {space : List Char} (blank : IsBlank space) {c : Char}
    (h : isSpace c = false) (cs : List Char) : skipSpace (space ++ c :: cs) = c :: cs := by
  rw [skipSpace_append blank, skipSpace_cons h]

/-- The reader passes over space in front of what it reads. -/
theorem takeValue?_append {space : List Char} (blank : IsBlank space) (bound : Nat)
    (cs : List Char) : takeValue? bound (space ++ cs) = takeValue? bound cs := by
  cases bound with
  | zero => simp only [takeValue?]
  | succ bound => simp only [takeValue?.eq_def, skipSpace_append blank]

/-! ### Which reader comes next -/

theorem takeValue?_quote (bound : Nat) (rest : List Char) :
    takeValue? (bound + 1) ('"' :: rest) =
      (takeText? rest).map fun (text, after) => (.string text, after) := by
  rw [takeValue?.eq_def]
  rfl

theorem takeValue?_bracket {rest : List Char} (h : (skipSpace rest).head? ≠ some ']')
    (bound : Nat) :
    takeValue? (bound + 1) ('[' :: rest) =
      (takeItems? bound rest).map fun (items, after) => (.array items, after) := by
  have noSpace : skipSpace ('[' :: rest) = '[' :: rest := skipSpace_cons (by decide) rest
  simp only [takeValue?.eq_def, noSpace]
  split
  · rename_i closed
    rw [closed] at h
    exact absurd rfl h
  · rfl

theorem takeValue?_brace {rest : List Char} (h : (skipSpace rest).head? ≠ some '}')
    (bound : Nat) :
    takeValue? (bound + 1) ('{' :: rest) =
      (takeMembers? bound rest).map fun (members, after) => (.object members, after) := by
  have noSpace : skipSpace ('{' :: rest) = '{' :: rest := skipSpace_cons (by decide) rest
  simp only [takeValue?.eq_def, noSpace]
  split
  · rename_i closed
    rw [closed] at h
    exact absurd rfl h
  · rfl

/-- What starts none of the other values is read as a numeral. -/
theorem takeValue?_numeral {c : Char} (noSpace : isSpace c = false)
    (other : c ∉ ['n', 't', 'f', '"', '[', '{']) (bound : Nat) (rest : List Char) :
    takeValue? (bound + 1) (c :: rest) =
      (Numeral.take? (c :: rest)).map fun (numeral, after) => (.number numeral, after) := by
  simp only [List.mem_cons, List.not_mem_nil, or_false, not_or] at other
  simp only [takeValue?.eq_def, skipSpace_cons noSpace]
  split <;> simp_all

/-! ### Every text of the grammar is read -/

/-- The value is read from its text, whatever follows it. Space after the text may be read with
it. -/
def IsTaken (text : List Char) (value : Json) : Prop :=
  ∀ (bound : Nat) (rest : List Char), text.length ≤ bound → Numeral.Ends rest →
    ∃ after, takeValue? bound (text ++ rest) = some (value, after) ∧
      skipSpace after = skipSpace rest

theorem ends_of_isBlank {space : List Char} (blank : IsBlank space) {rest : List Char}
    (ends : Numeral.Ends rest) : Numeral.Ends (space ++ rest) := by
  cases space with
  | nil => exact ends
  | cons c space =>
    have first : isSpace c = true := blank c List.mem_cons_self
    simp only [isSpace, Bool.or_eq_true, beq_iff_eq] at first
    rcases first with ((rfl | rfl) | rfl) | rfl <;>
      exact Numeral.ends_cons (by decide) (by decide) _

theorem exists_eq_cons_of_spells {text : List Char} {n : Numeral} (spelled : n.Spells text) :
    ∃ c rest, text = c :: rest ∧ isSpace c = false ∧ c ∉ ['n', 't', 'f', '"', '[', '{', ']'] := by
  obtain ⟨canonical, -⟩ := spelled
  obtain ⟨d, ds, whole⟩ := List.exists_cons_of_ne_nil canonical.whole
  cases n.negative with
  | true => exact ⟨'-', _, rfl, by decide, by decide⟩
  | false =>
    have other : ∀ d : Digit, isSpace d.toChar = false ∧
        d.toChar ∉ ['n', 't', 'f', '"', '[', '{', ']'] := by decide
    exact ⟨d.toChar, _, by rw [whole]; rfl, other d⟩

/-- A text of a value has something in it besides space, and it does not start with a closing
bracket. -/
theorem exists_skipSpace_eq_cons {text : List Char} {value : Json} (written : Writes text value)
    (rest : List Char) :
    ∃ c more, skipSpace (text ++ rest) = c :: more ∧ c ≠ ']' := by
  induction written generalizing rest with
  | null => exact ⟨'n', _, skipSpace_cons (by decide) _, by decide⟩
  | true => exact ⟨'t', _, skipSpace_cons (by decide) _, by decide⟩
  | false => exact ⟨'f', _, skipSpace_cons (by decide) _, by decide⟩
  | number spelled =>
    obtain ⟨c, more, rfl, noSpace, other⟩ := exists_eq_cons_of_spells spelled
    refine ⟨c, _, skipSpace_cons noSpace _, ?_⟩
    rintro rfl
    exact other (by decide)
  | string isLiteral =>
    obtain ⟨-⟩ := isLiteral
    exact ⟨'"', _, skipSpace_cons (by decide) _, by decide⟩
  | emptyArray | array => exact ⟨'[', _, skipSpace_cons (by decide) _, by decide⟩
  | emptyObject | object => exact ⟨'{', _, skipSpace_cons (by decide) _, by decide⟩
  | @spaced before text after value blankBefore blankAfter written ih =>
    rw [List.append_assoc, skipSpace_append blankBefore, List.append_assoc]
    exact ih (after ++ rest)

theorem writes_ne_nil {text : List Char} {value : Json} (written : Writes text value) :
    text ≠ [] := by
  rintro rfl
  obtain ⟨c, more, some, -⟩ := exists_skipSpace_eq_cons written []
  cases some

/-- A value takes at least one character, so the bound may be written as a successor. -/
theorem isTaken_of_succ {text : List Char} {value : Json} (written : Writes text value)
    (h : ∀ (bound : Nat) (rest : List Char), text.length ≤ bound + 1 → Numeral.Ends rest →
      ∃ after, takeValue? (bound + 1) (text ++ rest) = some (value, after) ∧
        skipSpace after = skipSpace rest) : IsTaken text value := by
  intro bound rest enough ends
  have nonempty : 0 < text.length := List.length_pos_iff.2 (writes_ne_nil written)
  obtain ⟨bound, rfl⟩ : ∃ n, bound = n + 1 := ⟨bound - 1, by omega⟩
  exact h bound rest enough ends

/-- If each item is read from its text, all of them are read up to the bracket. -/
theorem takeItems?_of_isTaken {parts : List (List Char × Json)} (nonempty : parts ≠ [])
    (taken : ∀ part ∈ parts, IsTaken part.1 part.2) {bound : Nat}
    (enough : (commaSeparated (parts.map (·.1))).length < bound) (rest : List Char) :
    takeItems? bound (commaSeparated (parts.map (·.1)) ++ ']' :: rest) =
      some (parts.map (·.2), rest) := by
  -- Each further item takes one off the bound and has a comma in its text to make up for it.
  induction parts generalizing bound with
  | nil => exact absurd rfl nonempty
  | cons part parts ih =>
    obtain ⟨bound, rfl⟩ : ∃ n, bound = n + 1 := ⟨bound - 1, by omega⟩
    obtain ⟨takenFirst, takenMore⟩ := List.forall_mem_cons.1 taken
    cases parts with
    | nil =>
      rw [List.map_singleton, commaSeparated_singleton] at enough ⊢
      obtain ⟨after, read, skipped⟩ := takenFirst bound (']' :: rest) (by omega)
        (Numeral.ends_cons (by decide) (by decide) rest)
      rw [takeItems?, read, Option.bind_eq_bind, Option.bind_some]
      simp only [skipped, skipSpace_cons (c := ']') (by decide)]
      rfl
    | cons next parts =>
      simp only [List.map_cons, commaSeparated_cons_cons, List.length_append, List.length_cons]
        at enough ih ⊢
      obtain ⟨after, read, skipped⟩ := takenFirst bound
        (',' :: (commaSeparated (next.1 :: parts.map (·.1)) ++ ']' :: rest)) (by omega)
        (Numeral.ends_cons (by decide) (by decide) _)
      have later := @ih (List.cons_ne_nil _ _) takenMore bound (by omega)
      rw [List.append_assoc, List.cons_append, takeItems?, read, Option.bind_eq_bind,
        Option.bind_some]
      simp only [skipped, skipSpace_cons (c := ',') (by decide), later]
      rfl

/-- A text that writes a string value is a literal with space around it. -/
theorem exists_literal_of_writes {cs : List Char} {text : Option String}
    (written : Writes cs (.string text)) :
    ∃ before literal after, IsBlank before ∧ IsBlank after ∧ IsLiteral literal text ∧
      cs = before ++ (literal ++ after) := by
  generalize value : Json.string text = v at written
  induction written with
  | string isLiteral =>
    obtain rfl := Json.string.inj value
    exact ⟨[], _, [], by simp [IsBlank], by simp [IsBlank], isLiteral, by simp⟩
  | spaced blankBefore blankAfter _ ih =>
    obtain ⟨before, literal, after, blankBefore', blankAfter', isLiteral, rfl⟩ := ih value
    refine ⟨_, literal, _, List.forall_mem_append.2 ⟨blankBefore, blankBefore'⟩,
      List.forall_mem_append.2 ⟨blankAfter', blankAfter⟩, isLiteral, ?_⟩
    simp only [List.append_assoc]
  | _ => cases value

/-- What a member becomes part of, by the text that follows it. -/
def afterMember? (bound : Nat) (member : Option String × Json) :
    List Char → Option (List (Option String × Json) × List Char)
  | '}' :: rest => some ([member], rest)
  | ',' :: rest => do
    let (members, rest) ← takeMembers? bound rest
    return (member :: members, rest)
  | _ => none

/-- A member is read, and then what follows it is looked at. -/
theorem takeMembers?_of_isTaken {part : WrittenMember}
    (key : Writes part.keyText (.string part.key)) (taken : IsTaken part.valueText part.value)
    {bound : Nat} (enough : part.valueText.length ≤ bound) {rest : List Char}
    (ends : Numeral.Ends rest) :
    takeMembers? (bound + 1) (part.text ++ rest) =
      afterMember? bound part.member (skipSpace rest) := by
  obtain ⟨before, literal, space, blankBefore, blankAfter, isLiteral, keyText⟩ :=
    exists_literal_of_writes key
  obtain ⟨body, rfl, readKey⟩ := takeText?_of_isLiteral isLiteral
  obtain ⟨after, read, skipped⟩ := taken bound rest enough ends
  have text : part.text ++ rest =
      before ++ '"' :: (body ++ (space ++ ':' :: (part.valueText ++ rest))) := by
    simp [WrittenMember.text, keyText]
  rw [text, takeMembers?, skipSpace_append_cons blankBefore (by decide)]
  simp only [readKey, Option.bind_eq_bind, Option.bind_some,
    skipSpace_append_cons blankAfter (c := ':') (by decide), read, skipped]
  rfl

/-- If each value is read from its text, the members are read up to the brace. -/
theorem takeMembers?_of_each {parts : List WrittenMember} (nonempty : parts ≠ [])
    (keys : ∀ part ∈ parts, Writes part.keyText (.string part.key))
    (taken : ∀ part ∈ parts, IsTaken part.valueText part.value) {bound : Nat}
    (enough : (commaSeparated (parts.map (·.text))).length < bound) (rest : List Char) :
    takeMembers? bound (commaSeparated (parts.map (·.text)) ++ '}' :: rest) =
      some (parts.map (·.member), rest) := by
  induction parts generalizing bound with
  | nil => exact absurd rfl nonempty
  | cons part parts ih =>
    obtain ⟨bound, rfl⟩ : ∃ n, bound = n + 1 := ⟨bound - 1, by omega⟩
    obtain ⟨key, keysMore⟩ := List.forall_mem_cons.1 keys
    obtain ⟨takenFirst, takenMore⟩ := List.forall_mem_cons.1 taken
    have length : part.valueText.length ≤ part.text.length := by
      simp only [WrittenMember.text, List.length_append, List.length_cons]
      omega
    cases parts with
    | nil =>
      rw [List.map_singleton, commaSeparated_singleton] at enough ⊢
      rw [takeMembers?_of_isTaken key takenFirst (by omega)
        (Numeral.ends_cons (by decide) (by decide) rest), skipSpace_cons (by decide)]
      rfl
    | cons next parts =>
      simp only [List.map_cons, commaSeparated_cons_cons, List.length_append, List.length_cons]
        at enough ih ⊢
      have later := @ih (List.cons_ne_nil _ _) keysMore takenMore bound (by omega)
      rw [List.append_assoc, List.cons_append, takeMembers?_of_isTaken key takenFirst (by omega)
        (Numeral.ends_cons (by decide) (by decide) _), skipSpace_cons (by decide), afterMember?,
        later]
      rfl

theorem isTaken_array {parts : List (List Char × Json)} (nonempty : parts ≠ [])
    (each : ∀ part ∈ parts, Writes part.1 part.2)
    (taken : ∀ part ∈ parts, IsTaken part.1 part.2) :
    IsTaken ('[' :: (commaSeparated (parts.map (·.1)) ++ [']'])) (.array (parts.map (·.2))) := by
  refine isTaken_of_succ (.array nonempty each) fun bound rest enough _ => ?_
  have opened : (skipSpace (commaSeparated (parts.map (·.1)) ++ ']' :: rest)).head? ≠
      some ']' := by
    obtain ⟨part, parts, rfl⟩ := List.exists_cons_of_ne_nil nonempty
    obtain ⟨more, first⟩ := exists_commaSeparated_append part.1 (parts.map (·.1)) (']' :: rest)
    obtain ⟨c, more, skipped, other⟩ :=
      exists_skipSpace_eq_cons (each part List.mem_cons_self) more
    rw [List.map_cons, first, skipped, List.head?_cons]
    exact fun same => other (Option.some.inj same)
  simp only [List.length_cons, List.length_append, List.length_nil] at enough
  refine ⟨rest, ?_, rfl⟩
  rw [List.cons_append, List.append_assoc, List.singleton_append, takeValue?_bracket opened,
    takeItems?_of_isTaken nonempty taken (by omega)]
  rfl

theorem isTaken_object {parts : List WrittenMember} (nonempty : parts ≠ [])
    (keys : ∀ part ∈ parts, Writes part.keyText (.string part.key))
    (values : ∀ part ∈ parts, Writes part.valueText part.value)
    (taken : ∀ part ∈ parts, IsTaken part.valueText part.value) :
    IsTaken ('{' :: (commaSeparated (parts.map (·.text)) ++ ['}']))
      (.object (parts.map (·.member))) := by
  refine isTaken_of_succ (.object nonempty keys values) fun bound rest enough _ => ?_
  have opened : (skipSpace (commaSeparated (parts.map (·.text)) ++ '}' :: rest)).head? ≠
      some '}' := by
    obtain ⟨part, parts, rfl⟩ := List.exists_cons_of_ne_nil nonempty
    obtain ⟨before, literal, space, blankBefore, -, isLiteral, keyText⟩ :=
      exists_literal_of_writes (keys part List.mem_cons_self)
    obtain ⟨body, rfl, -⟩ := takeText?_of_isLiteral isLiteral
    obtain ⟨more, first⟩ :=
      exists_commaSeparated_append part.text (parts.map (·.text)) ('}' :: rest)
    have quote : part.text ++ more = before ++ '"' :: (body ++ (space ++ ':' ::
        (part.valueText ++ more))) := by
      simp [WrittenMember.text, keyText]
    rw [List.map_cons, first, quote, skipSpace_append_cons blankBefore (by decide), List.head?_cons]
    decide
  simp only [List.length_cons, List.length_append, List.length_nil] at enough
  refine ⟨rest, ?_, rfl⟩
  rw [List.cons_append, List.append_assoc, List.singleton_append, takeValue?_brace opened,
    takeMembers?_of_each nonempty keys taken (by omega)]
  rfl

/-- Completeness of the reader, by induction on how the value is written. -/
theorem isTaken_of_writes {text : List Char} {value : Json} (written : Writes text value) :
    IsTaken text value := by
  induction written with
  | null =>
    refine isTaken_of_succ .null fun bound rest _ _ => ⟨rest, ?_, rfl⟩
    rw [takeValue?.eq_def]
    rfl
  | true =>
    refine isTaken_of_succ .true fun bound rest _ _ => ⟨rest, ?_, rfl⟩
    rw [takeValue?.eq_def]
    rfl
  | false =>
    refine isTaken_of_succ .false fun bound rest _ _ => ⟨rest, ?_, rfl⟩
    rw [takeValue?.eq_def]
    rfl
  | number spelled =>
    refine isTaken_of_succ (.number spelled) fun bound rest _ ends => ⟨rest, ?_, rfl⟩
    have read := Numeral.take?_of_spells spelled ends
    obtain ⟨c, more, rfl, noSpace, other⟩ := exists_eq_cons_of_spells spelled
    have others : c ∉ ['n', 't', 'f', '"', '[', '{'] := fun belongs =>
      other (List.mem_append_left [']'] belongs)
    rw [List.cons_append] at read ⊢
    rw [takeValue?_numeral noSpace others, read]
    rfl
  | string isLiteral =>
    refine isTaken_of_succ (.string isLiteral) fun bound rest _ _ => ⟨rest, ?_, rfl⟩
    obtain ⟨body, rfl, read⟩ := takeText?_of_isLiteral isLiteral
    rw [List.cons_append, takeValue?_quote, read]
    rfl
  | emptyArray blank =>
    refine isTaken_of_succ (.emptyArray blank) fun bound rest _ _ => ⟨rest, ?_, rfl⟩
    simp only [takeValue?.eq_def, List.cons_append, List.append_assoc, List.nil_append,
      skipSpace_cons (c := '[') (by decide), skipSpace_append_cons blank (c := ']') (by decide)]
  | emptyObject blank =>
    refine isTaken_of_succ (.emptyObject blank) fun bound rest _ _ => ⟨rest, ?_, rfl⟩
    simp only [takeValue?.eq_def, List.cons_append, List.append_assoc, List.nil_append,
      skipSpace_cons (c := '{') (by decide), skipSpace_append_cons blank (c := '}') (by decide)]
  | array nonempty each ih => exact isTaken_array nonempty each ih
  | object nonempty keys values _ ih => exact isTaken_object nonempty keys values ih
  -- The reader skips space before a value and leaves space after it, so only the rest up to space
  -- is known.
  | spaced blankBefore blankAfter _ ih =>
    intro bound rest enough ends
    simp only [List.length_append] at enough
    obtain ⟨rest', read, skipped⟩ := ih bound _ (by omega) (ends_of_isBlank blankAfter ends)
    refine ⟨rest', ?_, ?_⟩
    · rw [List.append_assoc, takeValue?_append blankBefore, List.append_assoc, read]
    · rw [skipped, skipSpace_append blankAfter]

end EstateSearch.Json
