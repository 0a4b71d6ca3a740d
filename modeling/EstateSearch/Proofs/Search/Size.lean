import EstateSearch.Proofs.CommandLine.Filter
import EstateSearch.Proofs.Search.Regrouping
import EstateSearch.Proofs.Sql.Placeholders
import Mathlib.Data.List.Forall2

/-!
# The size of a search

How many conditions a search asks for together, and how many values its fragment binds, can be told
from the number of criteria that are set and of entries of the query (`search_size`).

Groups are flattened, dropped and taken apart on the way, so the counts are no sums by themselves.
They become sums for conditions in normal form: the requirements of `allOf` are those of all members
(`requirementCount_allOf`), while `anyOf` is one requirement, however many members it has
(`requirementCount_anyOf`). No bind is lost either way, as no member of a search holds always by its
form (`binds_allOf`, `binds_anyOf`).
-/

set_option autoImplicit false

namespace EstateSearch

/-! ### Requirements and binds of groups -/

namespace Condition

variable {members : List Condition}

/-- A condition asks for as much as it adds to a group that asks for all of its members. -/
theorem requirementCount_eq (condition : Condition) :
    requirementCount condition = (conjuncts condition).length := by
  cases condition <;> rfl

theorem requirementCount_allOf (normal : ∀ member ∈ members, IsNormal member) :
    requirementCount (allOf members) = (members.map requirementCount).sum := by
  rw [requirementCount_eq, conjuncts_allOf normal, List.length_flatMap]
  exact congrArg List.sum (List.map_congr_left fun member _ => (requirementCount_eq member).symm)

/-- A group that asks for one of its members is one requirement, if no member is a group that asks
for several things. -/
theorem requirementCount_anyOf (sound : ∀ member ∈ members, isVacuous member = false)
    (single : ∀ member ∈ members, ∀ part ∈ alternatives member, requirementCount part = 1) :
    requirementCount (anyOf members) = min members.length 1 := by
  have unconstrained : ¬ members.any isVacuous = true := by simpa using sound
  rw [anyOf, if_neg unconstrained]
  cases members with
  | nil => rfl
  | cons first others =>
    have parts : ∀ part ∈ (first :: others).flatMap alternatives, requirementCount part = 1 := by
      intro part belongs
      obtain ⟨member, listed, added⟩ := List.mem_flatMap.1 belongs
      exact single member listed part added
    have several : (first :: others).flatMap alternatives ≠ [] := by
      simp [alternatives_ne_nil (sound first (by simp))]
    rw [List.length_cons, Nat.min_eq_right (by omega)]
    generalize (first :: others).flatMap alternatives = group at parts several
    cases group with
    | nil => exact absurd rfl several
    | cons part more =>
      cases more with
      | nil => exact parts part (by simp)
      | cons next more => rfl

/-- No leaf is dropped, if no member holds always by its form. -/
theorem leaves_anyOf (sound : ∀ member ∈ members, isVacuous member = false) :
    leaves (anyOf members) = members.flatMap leaves := by
  have unconstrained : ¬ members.any isVacuous = true := by simpa using sound
  rw [anyOf, if_neg unconstrained, leaves_grouped leaves_any, List.flatMap_assoc]
  simp only [flatMap_leaves_alternatives]

end Condition

namespace Search

open Condition Sql

theorem binds_allOf (members : List Condition) :
    binds (Condition.allOf members) = members.flatMap binds := by
  rw [binds_eq_leaves, leaves_allOf, List.filterMap_flatMap]
  exact List.flatMap_congr fun member _ => (binds_eq_leaves member).symm

/-- Where no member always holds, alternatives keep all of their values. -/
theorem binds_anyOf {members : List Condition}
    (sound : ∀ member ∈ members, isVacuous member = false) :
    binds (Condition.anyOf members) = members.flatMap binds := by
  rw [binds_eq_leaves, leaves_anyOf sound, List.filterMap_flatMap]
  exact List.flatMap_congr fun member _ => (binds_eq_leaves member).symm

/-- How many requirements a condition has at its top, and how many values its fragment binds. -/
structure Size where
  requirements : Nat
  values : Nat

/-- The condition is in normal form and has this size. -/
structure HasSize (condition : Condition) (size : Size) : Prop where
  normal : condition.IsNormal
  requirements_eq : condition.requirementCount = size.requirements
  values_eq : (binds condition).length = size.values

theorem HasSize.of_eq {condition : Condition} {size size' : Size} (sized : HasSize condition size)
    (same : size = size') : HasSize condition size' := same ▸ sized

/-- The size of a group that asks for all of its members, by their sizes. -/
def Size.sum (sizes : List Size) : Size :=
  ⟨(sizes.map Size.requirements).sum, (sizes.map Size.values).sum⟩

/-- In a group for all the sizes add up, which makes the count of a search a sum over its parts. -/
theorem hasSize_allOf {members : List Condition} {sizes : List Size}
    (each : List.Forall₂ HasSize members sizes) : HasSize (.allOf members) (.sum sizes) := by
  have normal : ∀ member ∈ members, member.IsNormal := by
    induction each with
    | nil => simp
    | cons sized _ ih => exact List.forall_mem_cons.2 ⟨sized.normal, ih⟩
  have requirements : members.map requirementCount = sizes.map Size.requirements := by
    rw [← List.forall₂_eq_eq_eq, List.forall₂_map_left_iff, List.forall₂_map_right_iff]
    exact each.imp fun _ _ sized => sized.requirements_eq
  have values : members.map (fun member => (binds member).length) = sizes.map Size.values := by
    rw [← List.forall₂_eq_eq_eq, List.forall₂_map_left_iff, List.forall₂_map_right_iff]
    exact each.imp fun _ _ sized => sized.values_eq
  refine ⟨isNormal_allOf normal, ?_, ?_⟩
  · rw [requirementCount_allOf normal, requirements]
    rfl
  · rw [binds_allOf, List.length_flatMap, values]
    rfl

/-- A group of conditions of the same size, one for each entry. -/
theorem hasSize_allOf_map {make : String → Condition} {size : Size}
    (h : ∀ entry, HasSize (make entry) size) (entries : List String) :
    HasSize (.allOf (entries.map make))
      ⟨entries.length * size.requirements, entries.length * size.values⟩ := by
  have each : List.Forall₂ HasSize (entries.map make) (entries.map fun _ => size) := by
    rw [List.forall₂_map_left_iff, List.forall₂_map_right_iff, List.forall₂_same]
    exact fun entry _ => h entry
  simpa [Size.sum] using hasSize_allOf each

/-! ### Criteria -/

/-- A comparison with a known value is one requirement and takes one placeholder. -/
theorem hasSize_compare (comparison : Comparison) (field : Field) {value : Value}
    (known : value ≠ .missing) : HasSize (.compare comparison field value) ⟨1, 1⟩ := by
  refine ⟨.compare comparison field value, rfl, ?_⟩
  cases value with
  | missing => exact absurd rfl known
  | _ => rfl

/-- The size of the condition on a field, which is asked for just if the criterion is set. -/
def Size.ofSet {α : Type} (criterion : Option α) : Size :=
  ⟨criterion.isSome.toNat, criterion.isSome.toNat⟩

section Criteria

variable {α : Type} {wrap : α → Value} (known : ∀ a, wrap a ≠ .missing)
include known

theorem hasSize_whenSet (comparison : Comparison) (field : Field) (criterion : Option α) :
    HasSize (whenSet (.compare comparison) wrap field criterion) (.ofSet criterion) := by
  cases criterion with
  | none => exact ⟨.always, rfl, rfl⟩
  | some a => exact hasSize_compare comparison field (known a)

/-- Each bound that is set counts once. -/
theorem hasSize_within (field : Field) (least most : Option α) :
    HasSize (within wrap field least most) (.sum [.ofSet least, .ofSet most]) :=
  hasSize_allOf (.cons (hasSize_whenSet known .atLeast field least)
    (.cons (hasSize_whenSet known .atMost field most) .nil))

end Criteria

/-! ### Queries -/

theorem mentionsIn_eq (fields : List Field) (needle : String) :
    mentionsIn fields needle = grouped any (fields.map fun field => mentions field needle) := by
  have sound : ¬ (fields.map fun field => mentions field needle).any isVacuous = true := by
    simp [mentions, isVacuous]
  rw [mentionsIn, anyOf, if_neg sound, List.flatMap_map]
  exact congrArg _ (List.flatMap_pure_eq_map _ fields)

/-- An entry that is looked for in some field does not hold always, and is one requirement, also if
it is negated. -/
theorem mentionsIn_single {fields : List Field} (nonempty : fields ≠ []) (needle : String) :
    isVacuous (mentionsIn fields needle) = false ∧
      requirementCount (mentionsIn fields needle) = 1 ∧
      requirementCount (negate (mentionsIn fields needle)) = 1 := by
  rw [mentionsIn_eq]
  match fields, nonempty with
  | [field], _ => exact ⟨rfl, rfl, rfl⟩
  | _ :: _ :: _, _ => exact ⟨rfl, rfl, rfl⟩

/-- The needle is bound once for every field. -/
theorem length_binds_mentionsIn (fields : List Field) (needle : String) :
    (binds (mentionsIn fields needle)).length = fields.length := by
  have sound : ∀ member ∈ fields.map fun field => mentions field needle, isVacuous member = false :=
    List.forall_mem_map.2 fun _ _ => rfl
  rw [mentionsIn, binds_anyOf sound, List.flatMap_map]
  simp [mentions, binds]

variable {fields : LookupFields}

/-- A group of alternatives is one requirement, however many fields it looks at. -/
theorem hasSize_mentionsIn {fields : List Field} (nonempty : fields ≠ []) (needle : String) :
    HasSize (mentionsIn fields needle) ⟨1, fields.length⟩ :=
  ⟨isNormal_mentionsIn fields needle, (mentionsIn_single nonempty needle).2.1,
    length_binds_mentionsIn fields needle⟩

theorem hasSize_negate_mentionsIn {fields : List Field} (nonempty : fields ≠ []) (needle : String) :
    HasSize (.negate (mentionsIn fields needle)) ⟨1, fields.length⟩ := by
  refine ⟨isNormal_negate (isNormal_mentionsIn fields needle),
    (mentionsIn_single nonempty needle).2.2, ?_⟩
  rw [binds_eq_leaves, leaves_negate, ← binds_eq_leaves, length_binds_mentionsIn]

/-- What an entry adds to a group that asks for one of its members are single requirements. -/
theorem requirementCount_of_mem_alternatives {fields : List Field} (nonempty : fields ≠ [])
    {needle : String} {part : Condition} (added : part ∈ alternatives (mentionsIn fields needle)) :
    requirementCount part = 1 := by
  have several : (fields.map fun field => mentions field needle) ≠ [] := by simpa using nonempty
  have flat : ∀ member ∈ fields.map fun field => mentions field needle, IsAlternative member :=
    List.forall_mem_map.2 fun _ _ => by simp [IsAlternative, mentions]
  rw [mentionsIn_eq, (alternatives_grouped_any several flat).1] at added
  obtain ⟨field, -, rfl⟩ := List.mem_map.1 added
  rfl

/-- If one of several terms is enough, they are one requirement together. -/
theorem hasSize_anyOf_mentionsIn {fields : List Field} (nonempty : fields ≠ [])
    (terms : List String) :
    HasSize (.anyOf (terms.map (mentionsIn fields)))
      ⟨min terms.length 1, terms.length * fields.length⟩ := by
  have sound : ∀ member ∈ terms.map (mentionsIn fields), isVacuous member = false :=
    List.forall_mem_map.2 fun term _ => (mentionsIn_single nonempty term).1
  have single : ∀ member ∈ terms.map (mentionsIn fields), ∀ part ∈ alternatives member,
      requirementCount part = 1 :=
    List.forall_mem_map.2 fun _ _ _ => requirementCount_of_mem_alternatives nonempty
  refine ⟨isNormal_anyOf fun _ => isNormal_of_mem_map_mentionsIn, ?_, ?_⟩
  · rw [requirementCount_anyOf sound single, List.length_map]
  · rw [binds_anyOf sound, List.flatMap_map, List.length_flatMap]
    simp [length_binds_mentionsIn]

def termRequirements : TermMatch → Query → Nat
  | .any, query => min query.terms.length 1
  | .all, query => query.terms.length

def Size.ofQuery (termMatch : TermMatch) (fields : LookupFields) (query : Query) : Size :=
  ⟨query.phrases.length + termRequirements termMatch query + query.exclusions.length,
    query.phrases.length * fields.phrases.length + query.terms.length * fields.terms.length +
      query.exclusions.length * fields.exclusions.length⟩

/-- Phrases and exclusions each count once; terms count once each or once together, as they
combine. -/
theorem hasSize_queryCondition (termMatch : TermMatch) {fields : LookupFields} (query : Query)
    (phraseFields : fields.phrases ≠ []) (termFields : fields.terms ≠ [])
    (exclusionFields : fields.exclusions ≠ []) :
    HasSize (queryCondition termMatch fields query) (.ofQuery termMatch fields query) := by
  have phrases := hasSize_allOf_map (hasSize_mentionsIn phraseFields) query.phrases
  have exclusions := hasSize_allOf_map (hasSize_negate_mentionsIn exclusionFields) query.exclusions
  cases termMatch with
  | any =>
    have terms := hasSize_anyOf_mentionsIn termFields query.terms
    refine (hasSize_allOf (.cons phrases (.cons terms (.cons exclusions .nil)))).of_eq ?_
    simp [Size.sum, Size.ofQuery, termRequirements, Nat.add_assoc]
  | all =>
    have terms := hasSize_allOf_map (hasSize_mentionsIn termFields) query.terms
    refine (hasSize_allOf (.cons phrases (.cons terms (.cons exclusions .nil)))).of_eq ?_
    simp [Size.sum, Size.ofQuery, termRequirements, Nat.add_assoc]

/-! ### Searches -/

end Search

/-- The number of criteria that are set. Each bound of a range counts, but activity does not, as it
is always asked for. -/
def PropertyCriteria.setCount (criteria : PropertyCriteria) : Nat :=
  [criteria.organizationId.isSome, criteria.assignedUserId.isSome, criteria.teamId.isSome,
    criteria.status.isSome, criteria.kind.isSome, criteria.city.isSome, criteria.country.isSome,
    criteria.priceMin.isSome, criteria.priceMax.isSome, criteria.surfaceMin.isSome,
    criteria.surfaceMax.isSome, criteria.bedrooms.isSome, criteria.bathrooms.isSome,
    criteria.createdAfter.isSome, criteria.createdBefore.isSome].count true

/-- The number of criteria that are set, without activity, which is always asked for. -/
def UserCriteria.setCount (criteria : UserCriteria) : Nat :=
  [criteria.organizationId.isSome, criteria.role.isSome].count true

namespace Search

open Condition Sql

theorem count_true_eq (flags : List Bool) : flags.count true = (flags.map Bool.toNat).sum := by
  induction flags with
  | nil => rfl
  | cons flag flags ih => cases flag <;> simp [ih, Nat.add_comm]

/-- Activity is asked for on top of the criteria that are set. -/
theorem hasSize_propertyCondition (termMatch : TermMatch) (criteria : PropertyCriteria)
    (query : Query) :
    HasSize (propertyCondition termMatch criteria query)
      (.sum [⟨criteria.setCount + 1, criteria.setCount + 1⟩,
        .ofQuery termMatch propertyFields query]) := by
  have equals {α : Type} {wrap : α → Value} (known : ∀ a, wrap a ≠ .missing) (field : Field)
      (criterion : Option α) : HasSize (whenSet equal wrap field criterion) (.ofSet criterion) :=
    hasSize_whenSet known .equal field criterion
  have integers : ∀ i, Value.integer i ≠ .missing := by simp
  have texts : ∀ s, Value.text s ≠ .missing := by simp
  have numbers : ∀ x, Value.number x ≠ .missing := by simp
  have instants : ∀ t, Value.instant t ≠ .missing := by simp
  have activity : HasSize (activity criteria.active) ⟨1, 1⟩ :=
    hasSize_compare .equal .active (by simp)
  have asked : HasSize (queryCondition termMatch propertyFields query)
      (.ofQuery termMatch propertyFields query) :=
    hasSize_queryCondition termMatch query (by decide) (by decide) (by decide)
  refine (hasSize_allOf <|
    .cons (equals integers .organizationId criteria.organizationId) <|
    .cons (equals integers .assignedUserId criteria.assignedUserId) <|
    .cons (equals integers .teamId criteria.teamId) <|
    .cons (equals texts .status criteria.status) <|
    .cons (equals texts .kind criteria.kind) <|
    .cons (equals texts .city criteria.city) <|
    .cons (equals texts .country criteria.country) <|
    .cons (equals integers .bedrooms criteria.bedrooms) <|
    .cons (equals integers .bathrooms criteria.bathrooms) <|
    .cons (hasSize_within numbers .price criteria.priceMin criteria.priceMax) <|
    .cons (hasSize_within numbers .surface criteria.surfaceMin criteria.surfaceMax) <|
    .cons activity <|
    .cons (hasSize_within instants .createdAt criteria.createdAfter criteria.createdBefore) <|
    .cons asked .nil).of_eq ?_
  simp only [Size.sum, Size.ofSet, PropertyCriteria.setCount, count_true_eq, List.map_cons,
    List.map_nil, List.sum_cons, List.sum_nil, Size.mk.injEq]
  omega

/-- The same for users. -/
theorem hasSize_userCondition (termMatch : TermMatch) (criteria : UserCriteria) (query : Query) :
    HasSize (userCondition termMatch criteria query)
      (.sum [⟨criteria.setCount + 1, criteria.setCount + 1⟩,
        .ofQuery termMatch userFields query]) := by
  have activity : HasSize (activity criteria.active) ⟨1, 1⟩ :=
    hasSize_compare .equal .active (by simp)
  have asked : HasSize (queryCondition termMatch userFields query)
      (.ofQuery termMatch userFields query) :=
    hasSize_queryCondition termMatch query (by decide) (by decide) (by decide)
  refine (hasSize_allOf <|
    .cons (hasSize_whenSet (by simp) .equal .organizationId criteria.organizationId) <|
    .cons (hasSize_whenSet (by simp) .equal .role criteria.role) <|
    .cons activity <|
    .cons asked .nil).of_eq ?_
  simp only [Size.sum, Size.ofSet, UserCriteria.setCount, count_true_eq, List.map_cons,
    List.map_nil, List.sum_cons, List.sum_nil, Size.mk.injEq]
  omega

/-- The requirements of a search are the criteria that are set, the activity, the phrases, the
exclusions, and the terms, which are one requirement together if one of them is enough. Its fragment
binds a value for each set criterion, one for the activity, and one for each entry in each field
that it is looked for in. The number of requirements is what is reported of a search that is
made. -/
theorem search_size :
    (∀ (termMatch : TermMatch) (query : Query) (offset : Nat),
      (∀ criteria : PropertyCriteria,
        let condition := propertyCondition termMatch criteria query
        condition.requirementCount = criteria.setCount + 1 + query.phrases.length +
            query.exclusions.length + termRequirements termMatch query ∧
          (Fragment.ofCondition offset condition).binds.length = criteria.setCount + 1 +
            3 * query.phrases.length + 4 * query.terms.length + 3 * query.exclusions.length) ∧
      ∀ criteria : UserCriteria,
        let condition := userCondition termMatch criteria query
        condition.requirementCount = criteria.setCount + 1 + query.phrases.length +
            query.exclusions.length + termRequirements termMatch query ∧
          (Fragment.ofCondition offset condition).binds.length = criteria.setCount + 1 +
            3 * (query.phrases.length + query.terms.length + query.exclusions.length)) ∧
    ∀ settings arguments search, CommandLine.prepare settings arguments = .ok search →
      ∃ criteria, CommandLine.readCriteria arguments.criteria = .ok criteria ∧
        search.condition = propertyCondition settings.termMatch criteria search.query ∧
        search.events = search.query.events ++
          [.propertySearch (criteria.setCount + 1 + search.query.phrases.length +
            search.query.exclusions.length + termRequirements settings.termMatch search.query)
            search.query.display] := by
  -- Needed twice: for the count of a condition and for the number in the event.
  have ofProperties (termMatch : TermMatch) (criteria : PropertyCriteria) (query : Query) :
      (propertyCondition termMatch criteria query).requirementCount = criteria.setCount + 1 +
        query.phrases.length + query.exclusions.length + termRequirements termMatch query := by
    rw [(hasSize_propertyCondition termMatch criteria query).requirements_eq]
    simp only [Size.sum, Size.ofQuery, List.map_cons, List.map_nil, List.sum_cons, List.sum_nil]
    omega
  refine ⟨fun termMatch query offset => ⟨fun criteria => ⟨ofProperties _ _ _, ?_⟩,
    fun criteria => ⟨?_, ?_⟩⟩, ?_⟩
  · rw [Fragment.ofCondition_eq, (hasSize_propertyCondition termMatch criteria query).values_eq]
    simp only [Size.sum, Size.ofQuery, List.map_cons, List.map_nil, List.sum_cons, List.sum_nil,
      propertyFields, List.length_cons, List.length_nil]
    omega
  · rw [(hasSize_userCondition termMatch criteria query).requirements_eq]
    simp only [Size.sum, Size.ofQuery, List.map_cons, List.map_nil, List.sum_cons, List.sum_nil]
    omega
  · rw [Fragment.ofCondition_eq, (hasSize_userCondition termMatch criteria query).values_eq]
    simp only [Size.sum, Size.ofQuery, List.map_cons, List.map_nil, List.sum_cons, List.sum_nil,
      userFields, List.length_cons, List.length_nil]
    omega
  · intro settings arguments search prepared
    obtain ⟨criteria, read, made, events⟩ := CommandLine.exists_of_prepare prepared
    rw [made, ofProperties] at events
    exact ⟨criteria, read, made, events⟩

/-- Two criteria that are set, activity, a phrase, an exclusion, and two terms of which one is
enough. -/
theorem search_size_vue :
    let arguments : CommandLine.SearchArguments :=
      ⟨"\"belle vue\" villa -studio jardin",
        some "\x7b\"city\":\"nice\",\"priceMin\":1,\"priceMax\":null,\"active\":false\x7d"⟩
    ∃ search, CommandLine.prepare .initial arguments = .ok search ∧
      search.events = search.query.events ++ [.propertySearch 6 search.query.display] := by
  intro arguments
  have counts : (CommandLine.prepare .initial arguments).toOption.map (fun search =>
      (search.query.phrases.length, search.query.exclusions.length,
        termRequirements .any search.query)) = some (1, 1, 1) := by
    decide +kernel
  have set : (CommandLine.readCriteria arguments.criteria).toOption.map
      PropertyCriteria.setCount = some 2 := by
    decide +kernel
  cases prepared : CommandLine.prepare .initial arguments with
  | error problem =>
    rw [prepared] at counts
    cases counts
  | ok search =>
    obtain ⟨criteria, read, -, events⟩ := search_size.2 .initial arguments search prepared
    rw [prepared] at counts
    rw [read] at set
    obtain ⟨phrases, exclusions, terms⟩ : search.query.phrases.length = 1 ∧
        search.query.exclusions.length = 1 ∧ termRequirements .any search.query = 1 := by
      simpa using Option.some.inj counts
    have two : criteria.setCount = 2 := Option.some.inj set
    have any : Settings.initial.termMatch = .any := rfl
    rw [any, two, phrases, exclusions, terms] at events
    exact ⟨search, rfl, events⟩

end Search

end EstateSearch
