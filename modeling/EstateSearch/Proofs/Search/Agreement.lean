import EstateSearch.Proofs.Search.Leaves
import EstateSearch.Proofs.Sql.Agreement
import EstateSearch.Proofs.Text.Lowercase

/-!
# Searches in memory and in a database

A search filters records in memory or is written as a fragment for a database. Both ways decide
alike for every search of a text that was typed (`search_decides_alike`).

Conditions that are put together freely do not share this: under an odd number of negations a
comparison with a null drops rows that are kept in memory (`not_decides_alike`). For these
`built_decides` says what the database does decide, that it never accepts too much, and that nothing
but such a comparison can come between the two.
-/

set_option autoImplicit false

namespace EstateSearch.Search

open Condition Sql

variable {db : Database}

/-! ### Searches of a text -/

/-- Each of the fields holds a text, or nothing. -/
def HoldsTexts (row : Row) (fields : List Field) : Prop :=
  ∀ field ∈ fields, ∃ content : Option String, row field = .ofOption .text content

/-- The searched fields of a property are texts or missing. -/
theorem property_holdsTexts (property : Property) :
    HoldsTexts property.row propertyFields.all := by
  intro field belongs
  cases field with
  | title | description | city | address => exact ⟨_, rfl⟩
  | _ => exact absurd belongs (by decide)

theorem user_holdsTexts (user : User) : HoldsTexts user.row userFields.all := by
  intro field belongs
  cases field with
  | firstName | lastName | email => exact ⟨_, rfl⟩
  | _ => exact absurd belongs (by decide)

/-- A needle that is not empty is looked for as in memory, whether the field is set or not. -/
theorem HoldsTexts.finds {row : Row} {fields : List Field} (texts : HoldsTexts row fields)
    (standard : db.IsStandard) {field : Field} (known : field ∈ fields) {needle : String}
    (nonempty : needle ≠ "") : db.Finds (row field) needle := by
  obtain ⟨content, held⟩ := texts field known
  rw [held]
  cases content with
  | none => exact standard.finds_missing nonempty
  | some content => exact standard.finds_text content needle

/-- The needles of a search are the entries of its query in lowercase, so none is empty if no entry
is. -/
theorem IsSearch.lookup_solid {fields : LookupFields} {query : Query} {condition : Condition}
    (search : IsSearch fields query condition) (solid : ∀ entry ∈ query.entries, entry ≠ "")
    {field : Field} {needle : String} (leaf : contains field needle ∈ condition.leaves) :
    field ∈ fields.all ∧ needle ≠ "" := by
  obtain ⟨known, lookup, entry, listed, equal⟩ := search.isLookup leaf
  obtain ⟨rfl, rfl⟩ := Condition.contains.inj equal
  exact ⟨lookup, fun empty => solid entry listed (Text.lower_eq_empty.1 empty)⟩

/-- The fragment of a search has the truth of the search, and this is the decision in memory. -/
theorem IsSearch.decides_alike {row : Row} {fields : LookupFields} {query : Query}
    {condition : Condition} (search : IsSearch fields query condition) (standard : db.IsStandard)
    (solid : ∀ entry ∈ query.entries, entry ≠ "") (texts : HoldsTexts row fields.all)
    (earlier : List Bind) :
    ∃ truth, (Fragment.ofCondition earlier.length condition).Evaluates db row earlier truth ∧
      (truth = some true ↔ condition.accepts row = true) := by
  have finds : FindsAll db row condition.leaves := by
    intro field needle leaf
    obtain ⟨known, nonempty⟩ := search.lookup_solid solid leaf
    exact texts.finds standard known nonempty
  refine ⟨condition.truth row, evaluates_ofCondition standard finds earlier, ?_⟩
  rw [truth_eq_some_iff, Bool.not_true, guessed_eq_accepts row condition (search.negatesOpen row)]

/-- A standard database finds the fragment of a search true for exactly the records that the search
accepts in memory. -/
theorem search_decides_alike (standard : db.IsStandard) (policy : TermPolicy) (text : String)
    (termMatch : TermMatch) (earlier : List Bind) :
    (∀ (criteria : PropertyCriteria) (property : Property),
        let condition := propertyCondition termMatch criteria (Query.parse policy text)
        ∃ truth,
          (Fragment.ofCondition earlier.length condition).Evaluates db property.row earlier truth ∧
            (truth = some true ↔ condition.accepts property.row = true)) ∧
      ∀ (criteria : UserCriteria) (user : User),
        let condition := userCondition termMatch criteria (Query.parse policy text)
        ∃ truth,
          (Fragment.ofCondition earlier.length condition).Evaluates db user.row earlier truth ∧
            (truth = some true ↔ condition.accepts user.row = true) := by
  have solid := Query.ne_empty_of_mem_entries policy text
  constructor
  · intro criteria property
    have search := isSearch_propertyCondition termMatch criteria (Query.parse policy text)
    exact search.decides_alike standard solid (property_holdsTexts property) earlier
  · intro criteria user
    have search := isSearch_userCondition termMatch criteria (Query.parse policy text)
    exact search.decides_alike standard solid (user_holdsTexts user) earlier

/-- The agreement at a record that lacks what the text excludes. -/
theorem search_decides_alike_blank :
    Database.reference.IsStandard ∧
      ∃ truth,
        (Fragment.ofCondition 0 (propertyCondition .any .blank
            (Query.parse ⟨["t2"], ⟨.empty⟩⟩ "-meublé \"belle vue\""))).Evaluates .reference
          Property.blank.row [] truth ∧
          (truth = some true ↔ (propertyCondition .any .blank
            (Query.parse ⟨["t2"], ⟨.empty⟩⟩ "-meublé \"belle vue\"")).accepts
              Property.blank.row = true) :=
  have standard := Database.reference_isLenient.toIsStandard
  ⟨standard, (search_decides_alike standard ⟨["t2"], ⟨.empty⟩⟩ "-meublé \"belle vue\"" .any []).1
    .blank .blank⟩

/-! ### Conditions that are put together freely -/

/-- Conditions that are put together from comparisons, text matches for something and searches of a
text. -/
inductive Built : Condition → Prop
  | equal (field : Field) (value : Value) : Built (equal field value)
  | atLeast (field : Field) (value : Value) : Built (atLeast field value)
  | atMost (field : Field) (value : Value) : Built (atMost field value)
  | mentions (field : Field) {needle : String} (nonempty : needle ≠ "") :
      Built (mentions field needle)
  | allOf {members : List Condition} (h : ∀ member ∈ members, Built member) :
      Built (allOf members)
  | anyOf {members : List Condition} (h : ∀ member ∈ members, Built member) :
      Built (anyOf members)
  | negate {condition : Condition} (h : Built condition) : Built (negate condition)
  | properties (termMatch : TermMatch) (criteria : PropertyCriteria) (policy : TermPolicy)
      (text : String) :
      Built (propertyCondition termMatch criteria (Query.parse policy text))
  | users (termMatch : TermMatch) (criteria : UserCriteria) (policy : TermPolicy)
      (text : String) :
      Built (userCondition termMatch criteria (Query.parse policy text))

/-- No empty needle is ever looked for: queries have none, and other matches are built with
something. -/
theorem Built.needle_ne_empty {condition : Condition} (built : Built condition) {field : Field}
    {needle : String} (leaf : contains field needle ∈ condition.leaves) : needle ≠ "" := by
  induction built with
  | equal | atLeast | atMost => cases List.mem_singleton.1 leaf
  | mentions known nonempty =>
    rw [Condition.mentions, leaves, List.mem_singleton] at leaf
    obtain ⟨rfl, rfl⟩ := Condition.contains.inj leaf
    exact fun empty => nonempty (Text.lower_eq_empty.1 empty)
  | allOf h ih =>
    rw [leaves_allOf, List.mem_flatMap] at leaf
    obtain ⟨member, belongs, inside⟩ := leaf
    exact ih member belongs inside
  | anyOf h ih =>
    obtain ⟨member, belongs, inside⟩ := List.mem_flatMap.1 (leaves_anyOf_subset _ leaf)
    exact ih member belongs inside
  | negate h ih =>
    rw [leaves_negate] at leaf
    exact ih leaf
  | properties termMatch criteria policy text =>
    exact (isSearch_propertyCondition termMatch criteria _).lookup_solid
      (Query.ne_empty_of_mem_entries policy text) leaf |>.2
  | users termMatch criteria policy text =>
    exact (isSearch_userCondition termMatch criteria _).lookup_solid
      (Query.ne_empty_of_mem_entries policy text) leaf |>.2

/-- What a lenient database finds for a condition, whatever it is put together from: true for
exactly the rows that are accepted with every open comparison guessed against the condition. These
are accepted in memory too, and they are all of them where no open comparison stands under an odd
number of negations. -/
theorem built_decides (lenient : db.IsLenient) {condition : Condition} (built : Built condition)
    (row : Row) (earlier : List Bind) :
    ∃ truth, (Fragment.ofCondition earlier.length condition).Evaluates db row earlier truth ∧
      (truth = some true ↔ condition.guessed false row = true) ∧
      (truth = some true → condition.accepts row = true) ∧
      (condition.negatesOpen false row = false →
        (truth = some true ↔ condition.accepts row = true)) := by
  have finds : FindsAll db row condition.leaves :=
    fun field needle leaf => lenient.finds (built.needle_ne_empty leaf) (row field)
  have exact := truth_eq_some_iff row condition true
  refine ⟨condition.truth row, evaluates_ofCondition lenient.toIsStandard finds earlier, exact, ?_,
    ?_⟩
  · intro found
    exact accepts_of_guessed row (exact.1 found)
  · intro affirmed
    rw [exact, Bool.not_true, guessed_eq_accepts row condition affirmed]

theorem built_decides_paris :
    Database.reference.IsLenient ∧ Built (negate (equal .city (.text "paris"))) ∧
      ∃ truth,
        (Fragment.ofCondition 0 (negate (equal .city (.text "paris")))).Evaluates .reference
            Property.blank.row [] truth ∧
          (truth = some true ↔
            (negate (equal .city (.text "paris"))).guessed false Property.blank.row = true) ∧
          (truth = some true →
            (negate (equal .city (.text "paris"))).accepts Property.blank.row = true) ∧
          ((negate (equal .city (.text "paris"))).negatesOpen false Property.blank.row = false →
            (truth = some true ↔
              (negate (equal .city (.text "paris"))).accepts Property.blank.row = true)) :=
  have built : Built (negate (equal .city (.text "paris"))) := .negate (.equal .city (.text "paris"))
  ⟨Database.reference_isLenient, built,
    built_decides Database.reference_isLenient built Property.blank.row []⟩

/-- A property without a city is not in Paris, but no database finds it so. -/
theorem not_decides_alike :
    ¬ ∀ db : Database, db.IsLenient → ∀ condition, Built condition → ∀ property : Property,
      ((Fragment.ofCondition 0 condition).Evaluates db property.row [] (some true) ↔
        condition.accepts property.row = true) := by
  intro alike
  let condition := negate (equal .city (.text "paris"))
  have built : Built condition := .negate (.equal .city (.text "paris"))
  have accepted : condition.accepts Property.blank.row = true := by decide
  have found := (alike .reference Database.reference_isLenient condition built Property.blank).2
    accepted
  have noMatch : FindsAll .reference Property.blank.row condition.leaves :=
    fun field needle leaf => absurd leaf (by simp [condition, leaves, equal])
  have unknown := evaluates_ofCondition Database.reference_isLenient.toIsStandard noMatch []
  have equal := found.unique _ _ unknown
  exact absurd equal (by decide)

end EstateSearch.Search
