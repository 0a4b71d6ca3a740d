import EstateSearch.CommandLine.Answer
import EstateSearch.Proofs.Except
import EstateSearch.Proofs.Record.Json

/-!
# Filtering twice

What the filter command writes describes the accepted properties, in their order, and is written
again when it is filtered by the same search (`filter_again`).

Every property that is read has finite numbers and supported instants (`Property.isRead`), so no
field is lost when the accepted ones are written.
-/

set_option autoImplicit false

namespace EstateSearch

open Json

/-! ### What is read -/

/-- What holds of everything that can be read holds of an optional field that has been read. -/
theorem forall_of_optional? {α : Type} {holds : α → Prop} {fields : Fields} {name : String}
    {read : Json → Option α} (each : ∀ value a, read value = some a → holds a) {option : Option α}
    (h : fields.optional? name read = some option) : ∀ a ∈ option, holds a := by
  rw [Fields.optional?_eq] at h
  rintro a rfl
  rw [optionalOf?.eq_def] at h
  split at h
  · cases h
  · cases h
  · obtain ⟨b, found, same⟩ := Option.map_eq_some_iff.1 h
    exact each _ a (found.trans same)

/-- No numeral is read as an infinity. -/
theorem isFinite_of_readNumber? (value : Json) (x : Binary64) (h : readNumber? value = some x) :
    x.isFinite = true := by
  cases value with
  | number numeral => exact isFinite_of_binary64? h
  | _ => cases h

/-- Only instants that can be written again are ever read. -/
theorem isSupported_of_readInstant? (value : Json) (t : Instant) (h : readInstant? value = some t) :
    t.IsSupported := by
  rw [readInstant?.eq_def] at h
  split at h
  · exact Instant.isSupported_of_parse? h
  · cases h

/-- A property that is read has finite numbers and supported instants. -/
theorem Property.isRead {value : Json} {p : Property} (h : ofJson? value = some p) :
    (∀ x ∈ p.numbers, x.isFinite = true) ∧ ∀ t ∈ p.instants, t.IsSupported := by
  -- On `Option.bind` itself a congruence lemma lets simp visit the rest twice for each field.
  have reads {α : Type} {step : Option α} {rest : α → Option Property} :
      (step >>= rest) = some p ↔ ∃ a, step = some a ∧ rest a = some p := Option.bind_eq_some_iff
  simp only [ofJson?, reads] at h
  obtain ⟨fields, -, id, -, reference, -, title, -, description, -, address, -, city, -, country, -,
    organizationId, -, assignedUserId, -, teamId, -, status, -, kind, -, price, readPrice, surface,
    readSurface, bedrooms, -, bathrooms, -, active, -, createdAt, readCreated, made⟩ := h
  obtain rfl := Option.some.inj made
  have finite := forall_of_optional? isFinite_of_readNumber? readPrice
  have finite' := forall_of_optional? isFinite_of_readNumber? readSurface
  have supported := forall_of_optional? isSupported_of_readInstant? readCreated
  constructor
  · intro x set
    rw [numbers, List.reduceOption_mem_iff, List.mem_cons, List.mem_singleton] at set
    rcases set with same | same
    · exact finite x same.symm
    · exact finite' x same.symm
  · intro t set
    rw [instants, List.reduceOption_mem_iff, List.mem_singleton] at set
    exact supported t set.symm

/-- Every record of a list that is read is read from a value. -/
theorem exists_of_recordsOfString? {α : Type} {ofJson? : Json → Option α} {text : String}
    {records : List α} (h : recordsOfString? ofJson? text = some records) :
    ∀ record ∈ records, ∃ value, ofJson? value = some record := by
  rw [recordsOfString?, Option.bind_eq_bind, Option.bind_eq_some_iff] at h
  obtain ⟨value, -, each⟩ := h
  split at each
  · rename_i items
    induction items generalizing records with
    | nil =>
      obtain rfl := Option.some.inj each
      simp
    | cons item items ih =>
      rw [List.mapM_cons, Option.bind_eq_bind, Option.bind_eq_some_iff] at each
      obtain ⟨first, readFirst, later⟩ := each
      rw [Option.bind_eq_bind, Option.bind_eq_some_iff] at later
      obtain ⟨others, readOthers, whole⟩ := later
      obtain rfl := Option.some.inj whole
      rw [List.forall_mem_cons]
      exact ⟨⟨item, readFirst⟩, ih readOthers⟩
  · cases each

namespace CommandLine

variable {settings : Settings} {arguments : SearchArguments} {path : String} {contents : Contents}

/-- A search that can be prepared is made of the criteria that are read, and the number of its
requirements is reported. -/
theorem exists_of_prepare {search : Prepared} (prepared : prepare settings arguments = .ok search) :
    ∃ criteria, readCriteria arguments.criteria = .ok criteria ∧
      search.condition = Search.propertyCondition settings.termMatch criteria search.query ∧
      search.events = search.query.events ++
        [.propertySearch search.condition.requirementCount search.query.display] := by
  simp only [prepare, bind_eq_ok_iff] at prepared
  obtain ⟨-, -, criteria, read, -, -, policy, -, made⟩ := prepared
  obtain rfl := Except.ok.inj made
  exact ⟨criteria, read, rfl, rfl⟩

/-- The command succeeds just if the search can be prepared and the properties be read. -/
theorem filter_eq_ok_iff {answer : String × List Event} :
    filter settings arguments path contents = .ok answer ↔
      ∃ search properties, prepare settings arguments = .ok search ∧
        readProperties path contents = .ok properties ∧
        answer = ((Json.array ((search.condition.filter Property.row properties).map
            Property.toJson)).pretty,
          search.events ++ [.propertiesFiltered properties.length
            (search.condition.filter Property.row properties).length]) := by
  constructor
  · intro h
    rw [filter] at h
    cases prepared : prepare settings arguments with
    | error problem =>
      rw [prepared] at h
      cases h
    | ok search =>
      cases read : readProperties path contents with
      | error problem =>
        rw [prepared, read] at h
        cases h
      | ok properties =>
        rw [prepared, read] at h
        exact ⟨search, properties, rfl, rfl, (Except.ok.inj h).symm⟩
  · rintro ⟨search, properties, prepared, read, rfl⟩
    rw [filter, prepared, read]
    rfl

/-- Properties are read from a file just if the file is there and holds a list of them. -/
theorem readProperties_eq_ok_iff {properties : List Property} :
    readProperties path contents = .ok properties ↔
      ∃ text, contents = some text ∧
        recordsOfString? Property.ofJson? text = some properties := by
  cases contents with
  | none => simp [readProperties]
  | some text =>
    simp only [readProperties, Option.some.injEq, exists_eq_left']
    cases recordsOfString? Property.ofJson? text with
    | none => simp
    | some properties' => simp

/-- What the filter command writes describes the accepted properties, in their order, and the same
search filters a file with it to itself. The numbers that are read must be read back from their
numerals, since reading is not correctly rounded. -/
theorem filter_again {output : String} {events : List Event}
    (succeeds : filter settings arguments path contents = .ok (output, events))
    (reread : ∀ properties, readProperties path contents = .ok properties →
      ∀ p ∈ properties, ∀ x ∈ p.numbers, IsReread x) :
    ∃ search properties accepted, prepare settings arguments = .ok search ∧
      readProperties path contents = .ok properties ∧
      accepted = properties.filter (fun p => search.condition.accepts p.row) ∧
      recordsOfString? Property.ofJson? output = some accepted ∧
      ∀ path', filter settings arguments path' (some output) =
        .ok (output, search.events ++ [.propertiesFiltered accepted.length accepted.length]) := by
  obtain ⟨search, properties, prepared, read, written⟩ := filter_eq_ok_iff.1 succeeds
  obtain ⟨rfl, -⟩ := Prod.mk.inj written
  obtain ⟨text, -, described⟩ := readProperties_eq_ok_iff.1 read
  -- Every property that is written was read before, so its instants can be written and its numbers
  -- are finite.
  have readBack : ∀ p ∈ search.condition.filter Property.row properties,
      Property.ofJson? p.toJson = some p := by
    intro p accepted
    have given : p ∈ properties := (List.mem_filter.1 accepted).1
    obtain ⟨value, fromValue⟩ := exists_of_recordsOfString? described p given
    obtain ⟨finite, supported⟩ := Property.isRead fromValue
    exact Property.ofJson?_toJson
      (fun x set => ⟨finite x set, reread properties read p given x set⟩) supported
  have again := recordsOfString?_print .pretty (fun p _ => Property.isWritable_toJson p) readBack
  have twice : search.condition.filter Property.row
      (search.condition.filter Property.row properties) =
        search.condition.filter Property.row properties := by
    simp [Condition.filter, List.filter_filter]
  refine ⟨search, properties, _, prepared, read, rfl, again, fun path' => ?_⟩
  refine filter_eq_ok_iff.2 ⟨search, _, prepared, readProperties_eq_ok_iff.2 ⟨_, rfl, again⟩, ?_⟩
  rw [twice]
  rfl

/-- A loft for 300000, and a house that is not offered any more and so is left out. -/
theorem filter_again_loft :
    let text := "[\x7b\"title\":\"Loft\",\"price\":3e5,\"beds\":[]\x7d,\x7b\"active\":false\x7d]"
    let loft := { Property.blank with title := some "Loft", price := some (.ofInt 300000) }
    ∃ output events events',
      filter .initial ⟨"", none⟩ "homes.json" (some text) = .ok (output, events) ∧
        recordsOfString? Property.ofJson? output = some [loft] ∧
        filter .initial ⟨"", none⟩ "lofts.json" (some output) = .ok (output, events') := by
  intro text loft
  let house := { Property.blank with active := false }
  have read : readProperties "homes.json" (some text) = .ok [loft, house] :=
    readProperties_eq_ok_iff.2 ⟨text, rfl, by decide +kernel⟩
  have accepts : (prepare .initial ⟨"", none⟩).toOption.map (fun search =>
      [loft, house].filter fun p => search.condition.accepts p.row) = some [loft] := by
    decide +kernel
  have reread : ∀ p ∈ [loft, house], ∀ x ∈ p.numbers, IsReread x := by decide +kernel
  cases prepared : prepare .initial ⟨"", none⟩ with
  | error problem =>
    rw [prepared] at accepts
    cases accepts
  | ok search =>
    have succeeds := filter_eq_ok_iff.2 ⟨search, [loft, house], prepared, read, rfl⟩
    obtain ⟨search', properties, accepted, prepared', read', chosen, again, twice⟩ :=
      filter_again succeeds fun properties read' => by
        rw [← Except.ok.inj (read.symm.trans read')]
        exact reread
    obtain rfl := Except.ok.inj (prepared.symm.trans prepared')
    obtain rfl := Except.ok.inj (read.symm.trans read')
    rw [prepared] at accepts
    have lofts : accepted = [loft] := chosen.trans (Option.some.inj accepts)
    rw [lofts] at again
    exact ⟨_, _, _, succeeds, again, twice "lofts.json"⟩

end CommandLine

end EstateSearch
