import EstateSearch.Json.Printer
import EstateSearch.Proofs.Json.Soundness

/-!
# Reading back JSON values

A value is read back from its text in either layout (`ofString?_print`), if every string in it
stands for a text and every number is in canonical form. All that is ever written is such a value.

The proof goes by the structure of the value: what is written is a text of the grammar
(`writes_print`), and the reader accepts all of these.
-/

set_option autoImplicit false

namespace EstateSearch.Json

open Decimal

def members (fields : List (String × Json)) : List (Option String × Json) :=
  fields.map fun field => (some field.1, field.2)

/-- The value can be written so that it is read back. -/
inductive IsWritable : Json → Prop
  | null : IsWritable .null
  | boolean (value : Bool) : IsWritable (.boolean value)
  | number {value : Numeral} (canonical : value.IsCanonical) : IsWritable (.number value)
  | string (text : String) : IsWritable (.string (some text))
  | array {items : List Json} (parts : ∀ item ∈ items, IsWritable item) :
    IsWritable (.array items)
  | object {fields : List (String × Json)} (parts : ∀ field ∈ fields, IsWritable field.2) :
    IsWritable (.object (members fields))

theorem isBlank_break (style : Style) (level : Nat) : IsBlank (style.break level) := by
  cases style with
  | compact => simp [IsBlank, Style.break]
  | pretty =>
    have space : isSpace '\n' = true ∧ isSpace ' ' = true := by decide
    simp [IsBlank, Style.break, newLine, space]

theorem exists_colon_eq (style : Style) : ∃ space, style.colon = ':' :: space ∧ IsBlank space := by
  cases style with
  | compact => exact ⟨[], rfl, by simp [IsBlank]⟩
  | pretty => exact ⟨[' '], rfl, by simp [IsBlank, isSpace]⟩

/-- The value is written on every level. -/
def IsWritten (style : Style) (value : Json) : Prop :=
  ∀ level, Writes (print style level value) value

/-- The text of an item goes from the break before it to the comma, or to the closing bracket. -/
theorem exists_parts_of_items {style : Style} {item : Json} {items : List Json} (level : Nat)
    (written : ∀ part ∈ item :: items, IsWritten style part) :
    ∃ parts : List (List Char × Json), parts ≠ [] ∧ (∀ part ∈ parts, Writes part.1 part.2) ∧
      parts.map (·.2) = item :: items ∧
      commaSeparated (parts.map (·.1)) = style.break (level + 1) ++ (print style (level + 1) item ++
        (printItems style (level + 1) items ++ style.break level)) := by
  have blank := isBlank_break style
  induction items generalizing item with
  | nil =>
    have spaced : Writes (style.break (level + 1) ++ (print style (level + 1) item ++
        style.break level)) item :=
      .spaced (blank (level + 1)) (blank level) (written item (by simp) (level + 1))
    refine ⟨[(_, item)], by simp, by simpa using spaced, rfl, ?_⟩
    rw [List.map_singleton, commaSeparated_singleton, printItems, List.nil_append]
  | cons next items ih =>
    obtain ⟨first, others⟩ := List.forall_mem_cons.1 written
    obtain ⟨parts, nonempty, each, values, texts⟩ := ih others
    obtain ⟨part, parts, rfl⟩ := List.exists_cons_of_ne_nil nonempty
    have spaced : Writes (style.break (level + 1) ++ (print style (level + 1) item ++ [])) item :=
      .spaced (blank (level + 1)) (by simp [IsBlank]) (first (level + 1))
    refine ⟨(_, item) :: part :: parts, by simp, List.forall_mem_cons.2 ⟨spaced, each⟩, ?_, ?_⟩
    · rw [List.map_cons, values]
    · rw [List.map_cons] at texts
      rw [List.map_cons, List.map_cons, commaSeparated_cons_cons, texts, printItems]
      simp only [List.append_assoc, List.cons_append, List.nil_append]

/-- The text of a member goes from the break before it to the comma, or to the closing brace. -/
theorem exists_parts_of_members {style : Style} {key : String} {value : Json}
    {fields : List (String × Json)} (level : Nat)
    (written : ∀ field ∈ (key, value) :: fields, IsWritten style field.2) :
    ∃ parts : List WrittenMember, parts ≠ [] ∧
      (∀ part ∈ parts, Writes part.keyText (.string part.key)) ∧
      (∀ part ∈ parts, Writes part.valueText part.value) ∧
      parts.map (·.member) = members ((key, value) :: fields) ∧
      commaSeparated (parts.map (·.text)) = style.break (level + 1) ++ (stringText (some key) ++
        (style.colon ++ (print style (level + 1) value ++
          (printMembers style (level + 1) (members fields) ++ style.break level)))) := by
  have blank := isBlank_break style
  obtain ⟨space, colon, isBlank⟩ := exists_colon_eq style
  have keyWritten (key : String) :
      Writes (style.break (level + 1) ++ (stringText (some key) ++ [])) (.string (some key)) :=
    .spaced (blank (level + 1)) (by simp [IsBlank]) (.string (isLiteral_quoted key))
  induction fields generalizing key value with
  | nil =>
    -- The break before the closing brace counts as space after the last value.
    have spaced : Writes (space ++ (print style (level + 1) value ++ style.break level)) value :=
      .spaced isBlank (blank level) (written (key, value) (by simp) (level + 1))
    refine ⟨[⟨_, some key, _, value⟩], by simp, by simpa using keyWritten key,
      by simpa using spaced, rfl, ?_⟩
    simp [commaSeparated_singleton, WrittenMember.text, colon, members, printMembers]
  | cons next fields ih =>
    obtain ⟨first, others⟩ := List.forall_mem_cons.1 written
    obtain ⟨parts, nonempty, keys, values, same, texts⟩ := ih others
    obtain ⟨part, parts, rfl⟩ := List.exists_cons_of_ne_nil nonempty
    have spaced : Writes (space ++ (print style (level + 1) value ++ [])) value :=
      .spaced isBlank (by simp [IsBlank]) (first (level + 1))
    refine ⟨⟨_, some key, _, value⟩ :: part :: parts, by simp,
      List.forall_mem_cons.2 ⟨keyWritten key, keys⟩, List.forall_mem_cons.2 ⟨spaced, values⟩,
      ?_, ?_⟩
    · rw [List.map_cons, same]
      rfl
    · rw [List.map_cons] at texts
      rw [List.map_cons, List.map_cons, commaSeparated_cons_cons, texts, WrittenMember.text]
      simp [colon, members, printMembers]

/-- A writable value is written as the grammar has it. -/
theorem writes_print (style : Style) {value : Json} (writable : IsWritable value) :
    IsWritten style value := by
  induction writable with
  | null => exact fun _ => .null
  | boolean value =>
    intro level
    cases value with
    | true => exact .true
    | false => exact .false
  | number canonical => exact fun _ => .number (Numeral.spells_text canonical)
  | string text => exact fun _ => .string (isLiteral_quoted text)
  | @array items _ written =>
    intro level
    cases items with
    | nil => exact @Writes.emptyArray [] (by simp [IsBlank])
    | cons item items =>
      obtain ⟨parts, nonempty, each, values, texts⟩ := exists_parts_of_items level written
      have array := Writes.array nonempty each
      rw [texts, values] at array
      simpa [print] using array
  | @object fields _ written =>
    intro level
    cases fields with
    | nil => exact @Writes.emptyObject [] (by simp [IsBlank])
    | cons field fields =>
      obtain ⟨parts, nonempty, keys, values, same, texts⟩ := exists_parts_of_members level written
      have object := Writes.object nonempty keys values
      rw [texts, same] at object
      simpa [print, members] using object

/-- A writable value is read back from its text in either layout. -/
theorem ofString?_print (style : Style) {value : Json} (writable : IsWritable value) :
    Json.ofString? (String.ofList (print style 0 value)) = some value := by
  rw [ofString?_eq_some_iff, String.toList_ofList]
  exact writes_print style writable 0

end EstateSearch.Json
