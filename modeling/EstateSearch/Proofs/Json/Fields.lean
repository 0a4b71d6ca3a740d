import EstateSearch.Json.Fields
import EstateSearch.Proofs.Decimal.Layout
import EstateSearch.Proofs.Instant.Reading
import EstateSearch.Proofs.Json.Number
import EstateSearch.Proofs.Json.Reading
import Mathlib.Data.List.Nodup
import Mathlib.Data.List.ReduceOption

/-!
# Fields that are written and read back

A record is written with all its fields, an unset one as null. Each field is found again under the
name that it was written with (`exists_fields?_eq`), and what is read from it is what was set
(`optionalOf?_ofOption`). Everything that is written into a field is a writable value.
-/

set_option autoImplicit false

namespace EstateSearch.Json

open Decimal

/-! ### Writable fields -/

theorem isWritable_ofText (text : String) : IsWritable (ofText text) := .string text

theorem isWritable_ofInstant (t : Instant) : IsWritable (ofInstant t) := .string _

theorem isWritable_ofInt64 (i : Int64) : IsWritable (ofInt64 i) :=
  .number (isCanonical_numeralOfInt _)

/-- Infinities become null, so every number can be written. -/
theorem isWritable_ofBinary64 (x : Binary64) : IsWritable (ofBinary64 x) := by
  rw [ofBinary64]
  split
  · exact .number (isCanonical_numeral (by decide) x)
  · exact .null

theorem isWritable_ofOption {α : Type} {write : α → Json} (h : ∀ a, IsWritable (write a))
    (a : Option α) : IsWritable (ofOption write a) := by
  cases a with
  | none => exact .null
  | some a => exact h a

theorem isWritable_ofFields {fields : Fields} (h : ∀ field ∈ fields, IsWritable field.2) :
    IsWritable (ofFields fields) := .object h

/-! ### The fields of an object -/

/-- A list is read back if each of its members is. -/
theorem mapM_map_eq_some {α β : Type} {write : α → β} {read : β → Option α} {list : List α}
    (h : ∀ a ∈ list, read (write a) = some a) : (list.map write).mapM read = some list := by
  induction list with
  | nil => rfl
  | cons a list ih =>
    rw [List.forall_mem_cons] at h
    simp [List.mapM_cons, h.1, ih h.2]

/-- The keys of what is written stand for texts. -/
theorem namedMembers?_members (fields : Fields) : namedMembers? (members fields) = some fields :=
  mapM_map_eq_some fun _ _ => rfl

theorem usesOnce_of_nodup {fields : Fields} (h : (fields.map (·.1)).Nodup) (names : List String) :
    usesOnce names fields = true := by
  rw [usesOnce, List.all_eq_true]
  intro name _
  have count : (fields.filter fun field => field.1 == name).length =
      (fields.map (·.1)).count name := by
    rw [List.count, List.countP_map, List.countP_eq_length_filter]
    rfl
  have once := List.nodup_iff_count_le_one.1 h name
  rw [decide_eq_true_iff, count]
  exact once

/-- Where no name is used twice, every field is found by its name. -/
theorem get?_of_mem {fields : Fields} (h : (fields.map (·.1)).Nodup) {field : String × Json}
    (belongs : field ∈ fields) : fields.get? field.1 = some field.2 := by
  induction fields with
  | nil => cases belongs
  | cons first fields ih =>
    rw [List.map_cons, List.nodup_cons] at h
    rcases List.mem_cons.1 belongs with rfl | later
    · simp [Fields.get?]
    · have other : first.1 ≠ field.1 := fun same =>
        h.1 (same ▸ List.mem_map_of_mem later)
      have found := ih h.2 later
      rw [Fields.get?] at found ⊢
      rw [List.find?_cons_of_neg (by simpa using other), found]

/-- A value that was made of the named fields, all of them different, gives each of them. -/
theorem exists_fields?_eq {value : Json} {fields : Fields} {names : List String}
    (written : value = ofFields fields) (named : fields.map (·.1) = names) (once : names.Nodup) :
    ∃ given, fields? names value = some given ∧
      ∀ field ∈ fields, given.get? field.1 = some field.2 := by
  rw [← named] at once
  refine ⟨fields, ?_, fun _ => get?_of_mem once⟩
  have members : namedMembers? (fields.map fun field => (some field.1, field.2)) = some fields :=
    namedMembers?_members fields
  rw [written, ofFields, fields?, members, Option.bind_eq_bind, Option.bind_some,
    if_pos (usesOnce_of_nodup once names)]

/-! ### Reading fields -/

theorem forall_of_reduceOption {α : Type} {holds : α → Prop} {options : List (Option α)}
    (h : ∀ a ∈ options.reduceOption, holds a) {option : Option α} (belongs : option ∈ options) :
    ∀ a ∈ option, holds a := by
  rintro a rfl
  exact h a (List.reduceOption_mem_iff.2 belongs)

def optionalOf? {α : Type} (read : Json → Option α) : Option Json → Option (Option α)
  | none => some none
  | some null => some none
  | some value => (read value).map some

/-- Reading an optional field hangs only on what is found under its name. -/
theorem Fields.optional?_eq {α : Type} (fields : Fields) (name : String) (read : Json → Option α) :
    fields.optional? name read = optionalOf? read (fields.get? name) := rfl

def defaultOf? {α : Type} (default : α) (read : Json → Option α) : Option Json → Option α
  | none => some default
  | some value => read value

theorem Fields.withDefault?_eq {α : Type} (fields : Fields) (name : String) (default : α)
    (read : Json → Option α) :
    fields.withDefault? name default read = defaultOf? default read (fields.get? name) := rfl

theorem defaultOf?_boolean (default value : Bool) :
    defaultOf? default readBoolean? (some (boolean value)) = some value := rfl

/-- A field that may be unset is read back, if what may be set is read back. -/
theorem optionalOf?_ofOption {α : Type} {read : Json → Option α} {write : α → Json}
    (unset : read null = none) {a : Option α} (h : ∀ b ∈ a, read (write b) = some b) :
    optionalOf? read (some (ofOption write a)) = some a := by
  cases a with
  | none => rfl
  | some b =>
    have read' : read (write b) = some b := h b rfl
    have set : write b ≠ null := by
      intro null
      rw [null, unset] at read'
      cases read'
    rw [ofOption, optionalOf?, read', Option.map_some]
    exact set

theorem optionalOf?_text (a : Option String) :
    optionalOf? readText? (some (ofOption ofText a)) = some a :=
  optionalOf?_ofOption rfl fun _ _ => rfl

theorem optionalOf?_boolean (a : Option Bool) :
    optionalOf? readBoolean? (some (ofOption boolean a)) = some a :=
  optionalOf?_ofOption rfl fun _ _ => rfl

theorem optionalOf?_integer (a : Option Int64) :
    optionalOf? readInteger? (some (ofOption ofInt64 a)) = some a :=
  optionalOf?_ofOption rfl fun i _ => int64?_numeralOfInt i

/-- A finite number that is read back as text is read back as a field. -/
theorem readNumber?_ofBinary64 {x : Binary64} (finite : x.isFinite = true) (reread : IsReread x) :
    readNumber? (ofBinary64 x) = some x := by
  rw [ofBinary64, if_pos finite]
  exact reread

/-- Numbers that are set in one of these fields are read back. -/
theorem optionalOf?_number {options : List (Option Binary64)}
    (h : ∀ x ∈ options.reduceOption, x.isFinite = true ∧ IsReread x) {a : Option Binary64}
    (belongs : a ∈ options) : optionalOf? readNumber? (some (ofOption ofBinary64 a)) = some a :=
  optionalOf?_ofOption rfl fun x set =>
    have ⟨finite, reread⟩ := forall_of_reduceOption h belongs x set
    readNumber?_ofBinary64 finite reread

/-- Instants that are set in one of these fields are read back. -/
theorem optionalOf?_instant {options : List (Option Instant)}
    (h : ∀ t ∈ options.reduceOption, t.IsSupported) {a : Option Instant} (belongs : a ∈ options) :
    optionalOf? readInstant? (some (ofOption ofInstant a)) = some a :=
  optionalOf?_ofOption rfl fun t set =>
    Instant.ofString?_recordText (forall_of_reduceOption h belongs t set)

end EstateSearch.Json
