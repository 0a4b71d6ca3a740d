import EstateSearch.Proofs.Condition.Normal
import EstateSearch.Search

/-!
# Searches are in normal form

`Constructed` lists what can be put together from comparisons, text matches and searches without a
bare group or negation. These conditions are the ones in normal form, and putting them together anew
gives the same tree (`constructed_iff`).
-/

set_option autoImplicit false

namespace EstateSearch.Search

open Condition

/-- Conditions that are put together from comparisons, text matches and searches for any criteria
and any query. -/
inductive Constructed : Condition → Prop where
  | equal (field : Field) (value : Value) : Constructed (equal field value)
  | atLeast (field : Field) (value : Value) : Constructed (atLeast field value)
  | atMost (field : Field) (value : Value) : Constructed (atMost field value)
  | mentions (field : Field) (needle : String) : Constructed (mentions field needle)
  | allOf {members : List Condition} (h : ∀ member ∈ members, Constructed member) :
      Constructed (allOf members)
  | anyOf {members : List Condition} (h : ∀ member ∈ members, Constructed member) :
      Constructed (anyOf members)
  | negate {condition : Condition} (h : Constructed condition) : Constructed (negate condition)
  | properties (termMatch : TermMatch) (criteria : PropertyCriteria) (query : Query) :
      Constructed (propertyCondition termMatch criteria query)
  | users (termMatch : TermMatch) (criteria : UserCriteria) (query : Query) :
      Constructed (userCondition termMatch criteria query)

/-! ### Searches -/

theorem isNormal_mentionsIn (fields : List Field) (needle : String) :
    (mentionsIn fields needle).IsNormal := by
  refine isNormal_anyOf fun member belongs => ?_
  obtain ⟨field, -, rfl⟩ := List.mem_map.1 belongs
  exact isNormal_mentions field needle

theorem isNormal_of_mem_map_mentionsIn {fields : List Field} {entries : List String}
    {member : Condition} (h : member ∈ entries.map (mentionsIn fields)) : member.IsNormal := by
  obtain ⟨entry, -, rfl⟩ := List.mem_map.1 h
  exact isNormal_mentionsIn fields entry

/-- Conditions of queries are in normal form. -/
theorem isNormal_queryCondition (termMatch : TermMatch) (fields : LookupFields) (query : Query) :
    (queryCondition termMatch fields query).IsNormal := by
  have phrases : (Condition.allOf (query.phrases.map (mentionsIn fields.phrases))).IsNormal :=
    isNormal_allOf fun _ => isNormal_of_mem_map_mentionsIn
  have exclusions : (Condition.allOf (query.exclusions.map fun term =>
      .negate (mentionsIn fields.exclusions term))).IsNormal := by
    refine isNormal_allOf fun member belongs => ?_
    obtain ⟨term, -, rfl⟩ := List.mem_map.1 belongs
    exact isNormal_negate (isNormal_mentionsIn fields.exclusions term)
  refine isNormal_allOf ?_
  simp only [List.forall_mem_cons]
  refine ⟨phrases, ?_, exclusions, by simp⟩
  cases termMatch with
  | any => exact isNormal_anyOf fun _ => isNormal_of_mem_map_mentionsIn
  | all => exact isNormal_allOf fun _ => isNormal_of_mem_map_mentionsIn

theorem isNormal_whenSet {α : Type} (comparison : Comparison) (wrap : α → Value) (field : Field)
    (criterion : Option α) : (whenSet (compare comparison) wrap field criterion).IsNormal := by
  cases criterion with
  | none => exact .always
  | some a => exact .compare comparison field (wrap a)

theorem isNormal_within {α : Type} (wrap : α → Value) (field : Field) (least most : Option α) :
    (within wrap field least most).IsNormal := by
  refine isNormal_allOf ?_
  simp only [List.forall_mem_cons]
  exact ⟨isNormal_whenSet .atLeast wrap field least, isNormal_whenSet .atMost wrap field most,
    by simp⟩

/-- Conditions of searches for properties are in normal form. -/
theorem isNormal_propertyCondition (termMatch : TermMatch) (criteria : PropertyCriteria)
    (query : Query) : (propertyCondition termMatch criteria query).IsNormal := by
  have equals {α : Type} (wrap : α → Value) (field : Field) (criterion : Option α) :
      (whenSet Condition.equal wrap field criterion).IsNormal :=
    isNormal_whenSet .equal wrap field criterion
  refine isNormal_allOf ?_
  simp only [List.forall_mem_cons]
  exact ⟨equals _ _ _, equals _ _ _, equals _ _ _, equals _ _ _, equals _ _ _, equals _ _ _,
    equals _ _ _, equals _ _ _, equals _ _ _, isNormal_within _ _ _ _, isNormal_within _ _ _ _,
    .compare _ _ _, isNormal_within _ _ _ _, isNormal_queryCondition _ _ _, by simp⟩

theorem isNormal_userCondition (termMatch : TermMatch) (criteria : UserCriteria) (query : Query) :
    (userCondition termMatch criteria query).IsNormal := by
  refine isNormal_allOf ?_
  simp only [List.forall_mem_cons]
  exact ⟨isNormal_whenSet .equal _ _ _, isNormal_whenSet .equal _ _ _, .compare _ _ _,
    isNormal_queryCondition _ _ _, by simp⟩

/-! ### What is put together -/

/-- Everything that is put together with the constructors is in normal form. -/
theorem Constructed.isNormal {condition : Condition} (h : Constructed condition) :
    condition.IsNormal := by
  induction h with
  | equal field value => exact .compare .equal field value
  | atLeast field value => exact .compare .atLeast field value
  | atMost field value => exact .compare .atMost field value
  | mentions field needle => exact isNormal_mentions field needle
  | allOf h ih => exact isNormal_allOf ih
  | anyOf h ih => exact isNormal_anyOf ih
  | negate h ih => exact isNormal_negate ih
  | properties termMatch criteria query => exact isNormal_propertyCondition termMatch criteria query
  | users termMatch criteria query => exact isNormal_userCondition termMatch criteria query

theorem constructed_compare (comparison : Comparison) (field : Field) (value : Value) :
    Constructed (compare comparison field value) := by
  cases comparison with
  | equal => exact .equal field value
  | atLeast => exact .atLeast field value
  | atMost => exact .atMost field value

/-- Whatever a condition is, put together anew it is one of those that can be put together. -/
theorem constructed_rebuild (condition : Condition) : Constructed condition.rebuild := by
  induction condition with
  | always =>
    have none : ∀ member ∈ ([] : List Condition), Constructed member := by simp
    exact .allOf none
  | all members ih =>
    rw [rebuild, rebuildEach_eq]
    exact .allOf (List.forall_mem_map.2 ih)
  | any members ih =>
    rw [rebuild, rebuildEach_eq]
    exact .anyOf (List.forall_mem_map.2 ih)
  | not condition ih => exact .negate ih
  | contains field needle => exact .mentions field needle
  | compare comparison field value => exact constructed_compare comparison field value

/-- A condition can be put together just if it is in normal form, and just if putting it together
anew gives the identical tree. -/
theorem constructed_iff (condition : Condition) :
    (Constructed condition ↔ condition.IsNormal) ∧
      (Constructed condition ↔ condition.rebuild = condition) := by
  have constructed_of_eq (same : condition.rebuild = condition) : Constructed condition :=
    same ▸ constructed_rebuild condition
  constructor
  · exact ⟨Constructed.isNormal, fun normal => constructed_of_eq (rebuild_eq_self normal)⟩
  · exact ⟨fun built => rebuild_eq_self built.isNormal, constructed_of_eq⟩

end EstateSearch.Search
