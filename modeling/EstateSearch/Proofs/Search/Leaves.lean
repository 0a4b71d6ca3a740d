import EstateSearch.Proofs.Condition.Leaves
import EstateSearch.Proofs.Condition.Unknown
import EstateSearch.Proofs.Query.Grammar
import EstateSearch.Search

/-!
# What searches are made of

The text matches of a search are those of its query: an entry in lowercase, looked for in a text
field (`mem_leaves_propertyCondition`, `mem_leaves_userCondition`). Negations stand over text matches
only, so no comparison with a missing field is ever negated (`negatesOpen_propertyCondition`,
`negatesOpen_userCondition`).
-/

set_option autoImplicit false

namespace EstateSearch.Search

open Condition

/-! ### Text matches -/

/-- A text match for an entry of the query in one of the fields. -/
def IsLookup (fields : List Field) (query : Query) (leaf : Condition) : Prop :=
  ∃ field ∈ fields, ∃ entry ∈ query.entries, leaf = mentions field entry

def LookupFields.all (fields : LookupFields) : List Field :=
  fields.phrases ++ fields.terms ++ fields.exclusions

theorem mem_leaves_mentionsIn {fields : List Field} {needle : String} {leaf : Condition}
    (h : leaf ∈ (mentionsIn fields needle).leaves) : ∃ field ∈ fields, leaf = mentions field needle := by
  obtain ⟨member, belongs, inside⟩ := List.mem_flatMap.1 (leaves_anyOf_subset _ h)
  obtain ⟨field, known, rfl⟩ := List.mem_map.1 belongs
  rw [mentions, leaves, List.mem_singleton] at inside
  exact ⟨field, known, inside⟩

/-- Text matches for some of the entries in some of the fields are lookups of the query. -/
theorem isLookup_of_mem {fields others : List Field} {query : Query} {entries : List String}
    (known : fields ⊆ others) (listed : entries ⊆ query.entries) {leaf : Condition}
    (h : ∃ entry ∈ entries, leaf ∈ (mentionsIn fields entry).leaves) :
    IsLookup others query leaf := by
  obtain ⟨entry, belongs, inside⟩ := h
  obtain ⟨field, lookup, rfl⟩ := mem_leaves_mentionsIn inside
  exact ⟨field, known lookup, entry, listed belongs, rfl⟩

/-- A query makes nothing but lookups. -/
theorem mem_leaves_queryCondition {termMatch : TermMatch} {fields : LookupFields} {query : Query}
    {leaf : Condition} (h : leaf ∈ (queryCondition termMatch fields query).leaves) :
    IsLookup fields.all query leaf := by
  unfold queryCondition at h
  rw [leaves_allOf] at h
  simp only [List.flatMap_cons, List.flatMap_nil, List.append_nil, List.mem_append] at h
  rcases h with phrase | term | exclusion
  · rw [leaves_allOf, List.flatMap_map, List.mem_flatMap] at phrase
    exact isLookup_of_mem (by simp [LookupFields.all]) (by simp [Query.entries]) phrase
  · have term : leaf ∈ (query.terms.map (mentionsIn fields.terms)).flatMap leaves := by
      cases termMatch with
      | any => exact leaves_anyOf_subset _ term
      | all => rwa [leaves_allOf] at term
    rw [List.flatMap_map, List.mem_flatMap] at term
    exact isLookup_of_mem (by simp [LookupFields.all]) (by simp [Query.entries]) term
  · rw [leaves_allOf, List.flatMap_map] at exclusion
    simp only [leaves_negate, List.mem_flatMap] at exclusion
    exact isLookup_of_mem (by simp [LookupFields.all]) (by simp [Query.entries]) exclusion

/-! ### Negations -/

theorem negatesOpen_mentionsIn (negated : Bool) (row : Row) (fields : List Field)
    (needle : String) : negatesOpen negated row (mentionsIn fields needle) = false := by
  refine negatesOpen_anyOf row fun member belongs => ?_
  obtain ⟨field, -, rfl⟩ := List.mem_map.1 belongs
  rfl

/-- Exclusions negate text matches only, and those are never open. -/
theorem negatesOpen_queryCondition (negated : Bool) (row : Row) (termMatch : TermMatch)
    (fields : LookupFields) (query : Query) :
    negatesOpen negated row (queryCondition termMatch fields query) = false := by
  have terms : ∀ member ∈ query.terms.map (mentionsIn fields.terms),
      negatesOpen negated row member = false := by
    intro member belongs
    obtain ⟨term, -, rfl⟩ := List.mem_map.1 belongs
    exact negatesOpen_mentionsIn negated row fields.terms term
  unfold queryCondition
  simp only [negatesOpen_allOf, negatesOpen_negate, negatesOpen_mentionsIn, List.any_cons,
    List.any_nil, List.any_map, Function.comp_def, Bool.or_false]
  cases termMatch with
  | any => simp [negatesOpen_anyOf row terms]
  | all => simp [negatesOpen_mentionsIn]

/-! ### Criteria -/

/-- A condition that compares and has no negation over a comparison. -/
structure IsCriterion (condition : Condition) : Prop where
  compares : ∀ leaf ∈ condition.leaves, ∃ comparison field value,
    leaf = compare comparison field value
  affirms : ∀ row, negatesOpen false row condition = false

theorem isCriterion_compare (comparison : Comparison) (field : Field) (value : Value) :
    IsCriterion (compare comparison field value) where
  compares _ inside := ⟨comparison, field, value, List.mem_singleton.1 inside⟩
  affirms _ := rfl

theorem isCriterion_whenSet {α : Type} {make : Field → Value → Condition}
    (h : ∀ field value, IsCriterion (make field value)) (wrap : α → Value) (field : Field)
    (criterion : Option α) : IsCriterion (whenSet make wrap field criterion) := by
  cases criterion with
  | none => exact ⟨fun leaf inside => absurd inside (by simp [whenSet]), fun row => rfl⟩
  | some a => exact h field (wrap a)

theorem isCriterion_allOf {members : List Condition} (h : ∀ member ∈ members, IsCriterion member) :
    IsCriterion (allOf members) where
  compares leaf inside := by
    rw [leaves_allOf, List.mem_flatMap] at inside
    obtain ⟨member, belongs, inside⟩ := inside
    exact (h member belongs).compares leaf inside
  affirms row := by
    rw [negatesOpen_allOf, List.any_eq_false]
    intro member belongs
    rw [(h member belongs).affirms row]
    simp

theorem isCriterion_equal {α : Type} (wrap : α → Value) (field : Field) (criterion : Option α) :
    IsCriterion (whenSet equal wrap field criterion) :=
  isCriterion_whenSet (isCriterion_compare .equal) wrap field criterion

theorem isCriterion_within {α : Type} (wrap : α → Value) (field : Field)
    (least most : Option α) : IsCriterion (within wrap field least most) := by
  have lower := isCriterion_whenSet (isCriterion_compare .atLeast) wrap field least
  have upper := isCriterion_whenSet (isCriterion_compare .atMost) wrap field most
  refine isCriterion_allOf fun member belongs => ?_
  simp only [List.mem_cons, List.not_mem_nil, or_false] at belongs
  rcases belongs with rfl | rfl
  · exact lower
  · exact upper

/-! ### Searches -/

/-- Criteria and a query that all have to be met. -/
def IsSearch (fields : LookupFields) (query : Query) (condition : Condition) : Prop :=
  ∃ termMatch criteria, (∀ member ∈ criteria, IsCriterion member) ∧
    condition = allOf (criteria ++ [queryCondition termMatch fields query])

/-- A search for properties is made of criteria and a query. -/
theorem isSearch_propertyCondition (termMatch : TermMatch) (criteria : PropertyCriteria)
    (query : Query) :
    IsSearch propertyFields query (propertyCondition termMatch criteria query) := by
  refine ⟨termMatch, [_, _, _, _, _, _, _, _, _, _, _, _, _], ?_, rfl⟩
  simp only [List.forall_mem_cons]
  exact ⟨isCriterion_equal _ _ _, isCriterion_equal _ _ _, isCriterion_equal _ _ _,
    isCriterion_equal _ _ _, isCriterion_equal _ _ _, isCriterion_equal _ _ _,
    isCriterion_equal _ _ _, isCriterion_equal _ _ _, isCriterion_equal _ _ _,
    isCriterion_within _ _ _ _, isCriterion_within _ _ _ _, isCriterion_compare _ _ _,
    isCriterion_within _ _ _ _, by simp⟩

theorem isSearch_userCondition (termMatch : TermMatch) (criteria : UserCriteria) (query : Query) :
    IsSearch userFields query (userCondition termMatch criteria query) := by
  refine ⟨termMatch, [_, _, _], ?_, rfl⟩
  simp only [List.forall_mem_cons]
  exact ⟨isCriterion_equal _ _ _, isCriterion_equal _ _ _, isCriterion_compare _ _ _, by simp⟩

variable {fields : LookupFields} {query : Query} {condition : Condition}

/-- The text matches of a search are those of its query. -/
theorem IsSearch.isLookup (search : IsSearch fields query condition) {field : Field}
    {needle : String} (h : contains field needle ∈ condition.leaves) :
    IsLookup fields.all query (contains field needle) := by
  obtain ⟨termMatch, criteria, plain, rfl⟩ := search
  rw [leaves_allOf, List.flatMap_append, List.mem_append] at h
  rcases h with criterion | lookup
  · obtain ⟨member, belongs, inside⟩ := List.mem_flatMap.1 criterion
    obtain ⟨_, _, _, other⟩ := (plain member belongs).compares _ inside
    cases other
  · rw [List.flatMap_singleton] at lookup
    exact mem_leaves_queryCondition lookup

/-- No comparison of a search stands under a negation. -/
theorem IsSearch.negatesOpen (search : IsSearch fields query condition) (row : Row) :
    condition.negatesOpen false row = false := by
  obtain ⟨termMatch, criteria, plain, rfl⟩ := search
  rw [negatesOpen_allOf, List.any_append, List.any_cons, List.any_nil,
    negatesOpen_queryCondition, Bool.or_false, Bool.or_false, List.any_eq_false]
  intro member belongs
  rw [(plain member belongs).affirms row]
  simp

end EstateSearch.Search
