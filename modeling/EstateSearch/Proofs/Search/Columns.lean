import EstateSearch.Proofs.Search.Leaves
import EstateSearch.Proofs.Sql.Columns

/-!
# What a search looks at

A condition decides by the columns that its SQL text names and by nothing else
(`decides_by_named_columns`). A search for properties names neither the identifier of a property,
which is no field at all, nor its reference.
-/

set_option autoImplicit false

namespace EstateSearch.Search

open Condition Sql

variable {α : Type}

theorem columns_whenSet_subset (comparison : Comparison) (wrap : α → Value) (field : Field)
    (criterion : Option α) :
    (whenSet (compare comparison) wrap field criterion).columns ⊆ [field] := by
  cases criterion with
  | none => exact List.nil_subset _
  | some a =>
    by_cases missing : wrap a = .missing
    · rw [whenSet, missing, columns_compare_missing]
      exact List.nil_subset _
    · rw [whenSet, columns_compare_of_ne missing]
      exact List.Subset.refl _

theorem columns_within_subset (wrap : α → Value) (field : Field) (least most : Option α) :
    (within wrap field least most).columns ⊆ [field] := by
  rw [within, columns_allOf, List.flatMap_cons, List.flatMap_singleton]
  exact List.append_subset_of_subset_of_subset
    (columns_whenSet_subset .atLeast wrap field least)
    (columns_whenSet_subset .atMost wrap field most)

/-- A query looks only at the fields it is given. -/
theorem columns_queryCondition_subset (termMatch : TermMatch) (fields : LookupFields)
    (query : Query) : (queryCondition termMatch fields query).columns ⊆ fields.all := by
  intro field named
  obtain ⟨leaf, inside, looked⟩ := List.mem_flatMap.1 named
  obtain ⟨other, listed, entry, -, rfl⟩ := mem_leaves_queryCondition inside
  obtain rfl := List.mem_singleton.1 looked
  exact listed

def searchedFields : List Field :=
  [.organizationId, .assignedUserId, .teamId, .status, .kind, .city, .country, .bedrooms,
    .bathrooms, .price, .surface, .active, .createdAt] ++ propertyFields.all

/-- A search for properties never looks at the reference. -/
theorem columns_propertyCondition_subset (termMatch : TermMatch) (criteria : PropertyCriteria)
    (query : Query) : (propertyCondition termMatch criteria query).columns ⊆ searchedFields := by
  have equals {α : Type} (wrap : α → Value) (field : Field) (criterion : Option α)
      (listed : [field] ⊆ searchedFields) :
      (whenSet equal wrap field criterion).columns ⊆ searchedFields :=
    List.Subset.trans (columns_whenSet_subset .equal wrap field criterion) listed
  have bounds {α : Type} (wrap : α → Value) (field : Field) (least most : Option α)
      (listed : [field] ⊆ searchedFields) :
      (within wrap field least most).columns ⊆ searchedFields :=
    List.Subset.trans (columns_within_subset wrap field least most) listed
  rw [propertyCondition, columns_allOf]
  intro field named
  obtain ⟨member, belongs, inside⟩ := List.mem_flatMap.1 named
  refine (?_ : ∀ member ∈ _, member.columns ⊆ searchedFields) member belongs inside
  simp only [List.forall_mem_cons]
  exact ⟨equals _ _ _ (by decide), equals _ _ _ (by decide), equals _ _ _ (by decide),
    equals _ _ _ (by decide), equals _ _ _ (by decide), equals _ _ _ (by decide),
    equals _ _ _ (by decide), equals _ _ _ (by decide), equals _ _ _ (by decide),
    bounds _ _ _ _ (by decide), bounds _ _ _ _ (by decide),
    equals Value.boolean .active (some (criteria.active.getD true)) (by decide),
    bounds _ _ _ _ (by decide),
    List.Subset.trans (columns_queryCondition_subset termMatch propertyFields query) (by decide),
    by simp⟩

/-- Two rows in which the columns that the text of a condition names hold values that cannot be told
apart are both accepted or both rejected. The text of a comparison with a missing value names none.
The text of a search for properties does not name the reference, so neither the reference nor the
identifier of a property matters to it. -/
theorem decides_by_named_columns (offset : Nat) :
    (∀ (condition : Condition) (row row' : Row),
      (∀ field ∈ namedColumns (Fragment.ofCondition offset condition).text,
        (row field).Alike (row' field)) → condition.accepts row = condition.accepts row') ∧
    (∀ comparison field,
      namedColumns (Fragment.ofCondition offset (.compare comparison field .missing)).text = []) ∧
    ∀ termMatch criteria query,
      .reference ∉ namedColumns
        (Fragment.ofCondition offset (propertyCondition termMatch criteria query)).text ∧
      ∀ (property : Property) (id : Option Int64) (reference : Option String),
        (propertyCondition termMatch criteria query).accepts
            { property with id := id, reference := reference }.row =
          (propertyCondition termMatch criteria query).accepts property.row := by
  simp only [namedColumns_ofCondition]
  refine ⟨fun condition row row' agree => accepts_congr agree, columns_compare_missing, ?_⟩
  intro termMatch criteria query
  have unnamed : .reference ∉ (propertyCondition termMatch criteria query).columns := fun named =>
    absurd (columns_propertyCondition_subset termMatch criteria query named) (by decide)
  refine ⟨unnamed, fun property id reference => accepts_congr fun field named => ?_⟩
  have other : field ≠ .reference := by
    rintro rfl
    exact unnamed named
  cases field with
  | reference => exact absurd rfl other
  | _ => exact .same _

/-- A property and a user of the same organization. The text names no city, though the condition
mentions one. -/
theorem decides_by_named_columns_organization :
    let condition := .not (.any [.compare .atLeast .organizationId (.integer 7),
      .compare .equal .city .missing])
    let loft := { Property.blank with organizationId := some 7, city := some "paris" }
    let agent := { User.blank with organizationId := some 7, role := some "agent" }
    (∀ field ∈ namedColumns (Fragment.ofCondition 2 condition).text,
        (loft.row field).Alike (agent.row field)) ∧
      condition.accepts loft.row = condition.accepts agent.row := by
  intro condition loft agent
  have named : namedColumns (Fragment.ofCondition 2 condition).text = [.organizationId] :=
    namedColumns_ofCondition 2 condition
  have agree : ∀ field ∈ namedColumns (Fragment.ofCondition 2 condition).text,
      (loft.row field).Alike (agent.row field) := by
    rw [named]
    intro field belongs
    obtain rfl := List.mem_singleton.1 belongs
    exact .same _
  exact ⟨agree, (decides_by_named_columns 2).1 condition loft.row agent.row agree⟩

end EstateSearch.Search
