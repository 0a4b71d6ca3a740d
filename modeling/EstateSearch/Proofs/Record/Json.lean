import EstateSearch.Criteria.Json
import EstateSearch.Proofs.Json.Fields
import EstateSearch.Record.Json

/-!
# Reading back criteria and records

Criteria and records are read back from their JSON forms (`json_forms_read_back`), whatever texts,
integers and instants are set in them. The numbers must be finite, since others are written as null,
and each must be read back from its own numeral, since reading is not correctly rounded.
-/

set_option autoImplicit false

namespace EstateSearch

open Json

/-! ### Criteria -/

namespace PropertyCriteria

def numbers (c : PropertyCriteria) : List Binary64 :=
  [c.priceMin, c.priceMax, c.surfaceMin, c.surfaceMax].reduceOption

def instants (c : PropertyCriteria) : List Instant :=
  [c.createdAfter, c.createdBefore].reduceOption

theorem isWritable_toJson (c : PropertyCriteria) : IsWritable c.toJson := by
  refine isWritable_ofFields ?_
  simp [isWritable_ofOption, isWritable_ofInt64, isWritable_ofText, isWritable_ofBinary64,
    isWritable_ofInstant, IsWritable.boolean]

theorem ofJson?_toJson {c : PropertyCriteria}
    (numbers : ∀ x ∈ c.numbers, x.isFinite = true ∧ IsReread x)
    (instants : ∀ t ∈ c.instants, t.IsSupported) : ofJson? c.toJson = some c := by
  have priceMin := optionalOf?_number numbers (a := c.priceMin) (by simp)
  have priceMax := optionalOf?_number numbers (a := c.priceMax) (by simp)
  have surfaceMin := optionalOf?_number numbers (a := c.surfaceMin) (by simp)
  have surfaceMax := optionalOf?_number numbers (a := c.surfaceMax) (by simp)
  have createdAfter := optionalOf?_instant instants (a := c.createdAfter) (by simp)
  have createdBefore := optionalOf?_instant instants (a := c.createdBefore) (by simp)
  obtain ⟨given, read, found⟩ := exists_fields?_eq (rfl : c.toJson = ofFields _)
    (rfl : _ = fieldNames) (by decide)
  simp only [List.forall_mem_cons, List.not_mem_nil, false_implies, implies_true, and_true] at found
  rw [ofJson?, read, Option.bind_eq_bind, Option.bind_some]
  simp only [Option.bind_eq_bind, Option.bind_some, Fields.optional?_eq, found, optionalOf?_text,
    optionalOf?_integer, optionalOf?_boolean, priceMin, priceMax, surfaceMin, surfaceMax,
    createdAfter, createdBefore, Option.pure_def]

end PropertyCriteria

namespace UserCriteria

theorem isWritable_toJson (c : UserCriteria) : IsWritable c.toJson := by
  refine isWritable_ofFields ?_
  simp [isWritable_ofOption, isWritable_ofInt64, isWritable_ofText, IsWritable.boolean]

theorem ofJson?_toJson (c : UserCriteria) : ofJson? c.toJson = some c := by
  obtain ⟨given, read, found⟩ := exists_fields?_eq (rfl : c.toJson = ofFields _)
    (rfl : _ = fieldNames) (by decide)
  simp only [List.forall_mem_cons, List.not_mem_nil, false_implies, implies_true, and_true] at found
  rw [ofJson?, read, Option.bind_eq_bind, Option.bind_some]
  simp only [Option.bind_eq_bind, Option.bind_some, Fields.optional?_eq, found, optionalOf?_text,
    optionalOf?_integer, optionalOf?_boolean, Option.pure_def]

end UserCriteria

/-! ### Records -/

namespace Property

def numbers (p : Property) : List Binary64 := [p.price, p.surface].reduceOption

def instants (p : Property) : List Instant := [p.createdAt].reduceOption

theorem isWritable_toJson (p : Property) : IsWritable p.toJson := by
  refine isWritable_ofFields ?_
  simp [isWritable_ofOption, isWritable_ofInt64, isWritable_ofText, isWritable_ofBinary64,
    isWritable_ofInstant, IsWritable.boolean]

theorem ofJson?_toJson {p : Property} (numbers : ∀ x ∈ p.numbers, x.isFinite = true ∧ IsReread x)
    (instants : ∀ t ∈ p.instants, t.IsSupported) : ofJson? p.toJson = some p := by
  have price := optionalOf?_number numbers (a := p.price) (by simp)
  have surface := optionalOf?_number numbers (a := p.surface) (by simp)
  have createdAt := optionalOf?_instant instants (a := p.createdAt) (by simp)
  obtain ⟨given, read, found⟩ := exists_fields?_eq (rfl : p.toJson = ofFields _)
    (rfl : _ = fieldNames) (by decide)
  simp only [List.forall_mem_cons, List.not_mem_nil, false_implies, implies_true, and_true] at found
  rw [ofJson?, read, Option.bind_eq_bind, Option.bind_some]
  simp only [Option.bind_eq_bind, Option.bind_some, Fields.optional?_eq, Fields.withDefault?_eq,
    found, optionalOf?_text, optionalOf?_integer, defaultOf?_boolean, price, surface, createdAt,
    Option.pure_def]

end Property

namespace User

def instants (u : User) : List Instant := [u.createdAt].reduceOption

theorem isWritable_toJson (u : User) : IsWritable u.toJson := by
  refine isWritable_ofFields ?_
  simp [isWritable_ofOption, isWritable_ofInt64, isWritable_ofText, isWritable_ofInstant,
    IsWritable.boolean]

theorem ofJson?_toJson {u : User} (instants : ∀ t ∈ u.instants, t.IsSupported) :
    ofJson? u.toJson = some u := by
  have createdAt := optionalOf?_instant instants (a := u.createdAt) (by simp)
  obtain ⟨given, read, found⟩ := exists_fields?_eq (rfl : u.toJson = ofFields _)
    (rfl : _ = fieldNames) (by decide)
  simp only [List.forall_mem_cons, List.not_mem_nil, false_implies, implies_true, and_true] at found
  rw [ofJson?, read, Option.bind_eq_bind, Option.bind_some]
  simp only [Option.bind_eq_bind, Option.bind_some, Fields.optional?_eq, Fields.withDefault?_eq,
    found, optionalOf?_text, optionalOf?_integer, defaultOf?_boolean, createdAt, Option.pure_def]

end User

/-! ### Texts -/

/-- A list of records is read back if each of them is. -/
theorem recordsOfString?_print {α : Type} {toJson : α → Json} {ofJson? : Json → Option α}
    (style : Style) {records : List α} (writable : ∀ record ∈ records, IsWritable (toJson record))
    (readBack : ∀ record ∈ records, ofJson? (toJson record) = some record) :
    recordsOfString? ofJson? (String.ofList (print style 0 (.array (records.map toJson)))) =
      some records := by
  have array : IsWritable (.array (records.map toJson)) := by
    refine .array fun item belongs => ?_
    obtain ⟨record, inList, rfl⟩ := List.mem_map.1 belongs
    exact writable record inList
  rw [recordsOfString?, ofString?_print style array, Option.bind_eq_bind, Option.bind_some]
  exact mapM_map_eq_some readBack

/-- Criteria and records are read back from the texts of their JSON forms in either layout, field by
field, if their numbers are finite and read back from their numerals. -/
theorem json_forms_read_back (style : Style) :
    (∀ c : PropertyCriteria,
      (∀ x ∈ c.numbers, x.isFinite = true ∧ IsReread x) → (∀ t ∈ c.instants, t.IsSupported) →
        PropertyCriteria.ofString? (String.ofList (print style 0 c.toJson)) = some c) ∧
      (∀ c : UserCriteria,
        UserCriteria.ofString? (String.ofList (print style 0 c.toJson)) = some c) ∧
      (∀ p : Property,
        (∀ x ∈ p.numbers, x.isFinite = true ∧ IsReread x) → (∀ t ∈ p.instants, t.IsSupported) →
          Property.ofString? (String.ofList (print style 0 p.toJson)) = some p) ∧
      ∀ u : User, (∀ t ∈ u.instants, t.IsSupported) →
        User.ofString? (String.ofList (print style 0 u.toJson)) = some u := by
  refine ⟨fun c numbers instants => ?_, fun c => ?_, fun p numbers instants => ?_,
    fun u instants => ?_⟩
  · rw [PropertyCriteria.ofString?, ofString?_print style c.isWritable_toJson, Option.bind_eq_bind,
      Option.bind_some, PropertyCriteria.ofJson?_toJson numbers instants]
  · rw [UserCriteria.ofString?, ofString?_print style c.isWritable_toJson, Option.bind_eq_bind,
      Option.bind_some, c.ofJson?_toJson]
  · rw [Property.ofString?, ofString?_print style p.isWritable_toJson, Option.bind_eq_bind,
      Option.bind_some, Property.ofJson?_toJson numbers instants]
  · rw [User.ofString?, ofString?_print style u.isWritable_toJson, Option.bind_eq_bind,
      Option.bind_some, User.ofJson?_toJson instants]

/-- Criteria with a bound of a tenth, and a property with a line break in its title that was
published in a leap second. -/
theorem json_forms_read_back_loft :
    let search : PropertyCriteria :=
      { PropertyCriteria.blank with
        city := some "Saint-\"Malo\"", priceMin := some ⟨0x3FB999999999999A⟩, active := some false,
        createdBefore := some ⟨-62167219201, 999⟩ }
    let loft : Property :=
      { Property.blank with
        title := some "Loft\n\\", price := some (.ofInt 300000), bedrooms := some (-2),
        createdAt := some ⟨1483228799, 1500000000⟩ }
    PropertyCriteria.ofString? search.toJson.compact = some search ∧
      Property.ofString? loft.toJson.pretty = some loft := by
  intro search loft
  have tenth : ∀ x ∈ search.numbers, x.isFinite = true ∧ IsReread x := by decide +kernel
  have price : ∀ x ∈ loft.numbers, x.isFinite = true ∧ IsReread x := by decide +kernel
  have created : ∀ t ∈ search.instants, t.IsSupported := by decide +kernel
  have published : ∀ t ∈ loft.instants, t.IsSupported := by decide +kernel
  exact ⟨(json_forms_read_back .compact).1 search tenth created,
    (json_forms_read_back .pretty).2.2.1 loft price published⟩

end EstateSearch
