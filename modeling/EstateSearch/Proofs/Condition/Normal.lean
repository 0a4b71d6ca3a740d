import EstateSearch.Proofs.Condition.Groups
import EstateSearch.Proofs.Text.Capitals
import Mathlib.Data.List.Basic

/-!
# Conditions in normal form

In a normal form groups have two members or more, no group stands directly in a group of its kind,
nothing trivial stands in a group, no negation stands directly under a negation, and needles are in
lowercase (`IsNormal`).

* Each way to put conditions together keeps the normal form (`isNormal_allOf`, `isNormal_anyOf`,
  `isNormal_negate`, `isNormal_mentions`). Groups are flattened one level only; that is enough, as
  the members of a group in normal form need no flattening themselves.
* A normal form that is put together once more from its leaves (`rebuild`) is the same tree
  (`rebuild_eq_self`).
-/

set_option autoImplicit false

namespace EstateSearch.Condition

/-- May the condition stand in a group that asks for all of its members? -/
def IsConjunct (condition : Condition) : Prop :=
  condition ≠ always ∧ ∀ members, condition ≠ all members

/-- May the condition stand in a group that asks for one of its members? -/
def IsAlternative (condition : Condition) : Prop :=
  condition ≠ always ∧ ∀ members, condition ≠ any members

/-- The conditions in normal form. -/
inductive IsNormal : Condition → Prop where
  | always : IsNormal always
  | all {members : List Condition} (several : 2 ≤ members.length)
      (flat : ∀ member ∈ members, IsConjunct member)
      (normal : ∀ member ∈ members, IsNormal member) : IsNormal (all members)
  | any {members : List Condition} (several : 2 ≤ members.length)
      (flat : ∀ member ∈ members, IsAlternative member)
      (normal : ∀ member ∈ members, IsNormal member) : IsNormal (any members)
  | not {condition : Condition} (single : ∀ inner, condition ≠ not inner)
      (normal : IsNormal condition) : IsNormal (not condition)
  | contains (field : Field) {needle : String} (lowercase : Text.lower needle = needle) :
      IsNormal (contains field needle)
  | compare (comparison : Comparison) (field : Field) (value : Value) :
      IsNormal (compare comparison field value)

mutual

/-- The condition put together anew, from the leaves upwards. -/
def rebuild : Condition → Condition
  | always => always
  | all members => allOf (rebuildEach members)
  | any members => anyOf (rebuildEach members)
  | not condition => negate (rebuild condition)
  | contains field needle => mentions field needle
  | compare comparison field value => compare comparison field value

def rebuildEach : List Condition → List Condition
  | [] => []
  | member :: others => rebuild member :: rebuildEach others

end

theorem rebuildEach_eq (members : List Condition) : rebuildEach members = members.map rebuild := by
  induction members with
  | nil => rfl
  | cons member others ih => rw [rebuildEach, ih, List.map_cons]

/-! ### What members add to a group -/

/-- A condition that may stand in a group for all is neither dropped nor flattened there. -/
theorem IsConjunct.conjuncts_eq {condition : Condition} (h : IsConjunct condition) :
    conjuncts condition = [condition] := by
  cases condition with
  | always => exact absurd rfl h.1
  | all members => exact absurd rfl (h.2 members)
  | _ => rfl

/-- A condition that may stand among alternatives is neither dropped nor flattened there. -/
theorem IsAlternative.alternatives_eq {condition : Condition} (h : IsAlternative condition) :
    alternatives condition = [condition] := by
  cases condition with
  | any members => exact absurd rfl (h.2 members)
  | _ => rfl

theorem IsAlternative.isVacuous_eq {condition : Condition} (h : IsAlternative condition) :
    isVacuous condition = false := by
  cases condition with
  | always => exact absurd rfl h.1
  | any members => exact absurd rfl (h.2 members)
  | _ => rfl

/-- What a normal form adds to a group that asks for all of its members may stand there. -/
theorem IsNormal.of_mem_conjuncts {condition part : Condition} (h : IsNormal condition)
    (added : part ∈ conjuncts condition) : IsConjunct part ∧ IsNormal part := by
  have whole := h
  cases h with
  | always => cases added
  | all several flat normal => exact ⟨flat part added, normal part added⟩
  | _ =>
    obtain rfl := List.mem_singleton.1 added
    exact ⟨by simp [IsConjunct], whole⟩

/-- What a normal form adds to a group that asks for one of its members may stand there. -/
theorem IsNormal.of_mem_alternatives {condition part : Condition} (h : IsNormal condition)
    (sound : isVacuous condition = false) (added : part ∈ alternatives condition) :
    IsAlternative part ∧ IsNormal part := by
  have whole := h
  cases h with
  | always => cases sound
  | any several flat normal => exact ⟨flat part added, normal part added⟩
  | _ =>
    obtain rfl := List.mem_singleton.1 added
    exact ⟨by simp [IsAlternative], whole⟩

/-! ### The normal form is kept -/

/-- A group of parts that may stand in it is in normal form, also where there are too few for a
group. -/
theorem isNormal_grouped {group : List Condition → Condition} {mayStand : Condition → Prop}
    (whole : ∀ {parts : List Condition}, 2 ≤ parts.length → (∀ part ∈ parts, mayStand part) →
      (∀ part ∈ parts, IsNormal part) → IsNormal (group parts))
    {parts : List Condition} (h : ∀ part ∈ parts, mayStand part ∧ IsNormal part) :
    IsNormal (grouped group parts) := by
  match parts, h with
  | [], _ => exact .always
  | [part], h => exact (h part (by simp)).2
  | first :: second :: others, h =>
    exact whole (by simp) (fun part belongs => (h part belongs).1)
      (fun part belongs => (h part belongs).2)

/-- Groups for all members are made in normal form. -/
theorem isNormal_allOf {members : List Condition} (h : ∀ member ∈ members, IsNormal member) :
    IsNormal (allOf members) := by
  refine isNormal_grouped .all fun part belongs => ?_
  obtain ⟨member, listed, added⟩ := List.mem_flatMap.1 belongs
  exact (h member listed).of_mem_conjuncts added

theorem isNormal_anyOf {members : List Condition} (h : ∀ member ∈ members, IsNormal member) :
    IsNormal (anyOf members) := by
  unfold anyOf
  split
  · exact .always
  · rename_i vacuous
    -- A trivial member has made the whole group trivial already, so none is left here.
    have sound : ∀ member ∈ members, isVacuous member = false := by simpa using vacuous
    refine isNormal_grouped .any fun part belongs => ?_
    obtain ⟨member, listed, added⟩ := List.mem_flatMap.1 belongs
    exact (h member listed).of_mem_alternatives (sound member listed) added

theorem isNormal_negate {condition : Condition} (h : IsNormal condition) :
    IsNormal (negate condition) := by
  have whole := h
  cases h with
  | not single normal => exact normal
  | _ => exact .not (by simp) whole

theorem isNormal_mentions (field : Field) (needle : String) : IsNormal (mentions field needle) :=
  .contains field (Text.lower_lower needle)

/-! ### Putting together anew -/

theorem grouped_of_several (group : List Condition → Condition) {members : List Condition}
    (several : 2 ≤ members.length) : grouped group members = group members := by
  match members, several with
  | _ :: _ :: _, _ => rfl

theorem allOf_eq_all {members : List Condition} (several : 2 ≤ members.length)
    (flat : ∀ member ∈ members, IsConjunct member) : allOf members = all members := by
  have added : members.flatMap conjuncts = members := by
    rw [List.flatMap_congr fun member belongs => (flat member belongs).conjuncts_eq]
    exact List.flatMap_singleton' members
  rw [allOf, added, grouped_of_several all several]

theorem anyOf_eq_any {members : List Condition} (several : 2 ≤ members.length)
    (flat : ∀ member ∈ members, IsAlternative member) : anyOf members = any members := by
  have sound : ¬members.any isVacuous = true := by
    rw [Bool.not_eq_true, List.any_eq_false]
    intro member belongs
    rw [(flat member belongs).isVacuous_eq]
    exact Bool.false_ne_true
  have added : members.flatMap alternatives = members := by
    rw [List.flatMap_congr fun member belongs => (flat member belongs).alternatives_eq]
    exact List.flatMap_singleton' members
  rw [anyOf, if_neg sound, added, grouped_of_several any several]

theorem negate_eq_not {condition : Condition} (single : ∀ inner, condition ≠ not inner) :
    negate condition = not condition := by
  cases condition with
  | not inner => exact absurd rfl (single inner)
  | _ => rfl

/-- A normal form that is put together anew is the same tree. -/
theorem rebuild_eq_self {condition : Condition} (h : IsNormal condition) :
    rebuild condition = condition := by
  induction h with
  | always => rfl
  | all several flat normal ih =>
    rw [rebuild, rebuildEach_eq, List.map_congr_left ih, List.map_id', allOf_eq_all several flat]
  | any several flat normal ih =>
    rw [rebuild, rebuildEach_eq, List.map_congr_left ih, List.map_id', anyOf_eq_any several flat]
  | not single normal ih => rw [rebuild, ih, negate_eq_not single]
  | contains field lowercase => rw [rebuild, mentions, lowercase]
  | compare comparison field value => rfl

end EstateSearch.Condition
