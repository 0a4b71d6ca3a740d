import EstateSearch.Proofs.Search.Normal

/-!
# Groups inside groups

A group that stands in a group of its kind may be left out for its members, and a condition that is
negated twice for itself (`regrouping_unseen`). What is put together is not only decided alike but
the same tree.

This holds of conditions that were put together themselves. A group takes its members apart one
level deep, and of a group in normal form this leaves all that went into it (`conjuncts_allOf`,
`alternatives_anyOf`). A bare group in a bare group would lose its inner one only with the second
walk. The one exception is the empty group that asks for one of its members: it holds always, and so
does every group of its kind around it.
-/

set_option autoImplicit false

namespace EstateSearch

namespace Condition

variable {members : List Condition}

/-! ### Groups that ask for all of their members -/

/-- Flattening undoes grouping for members that need no flattening themselves. -/
theorem conjuncts_grouped_all (flat : ∀ member ∈ members, IsConjunct member) :
    conjuncts (grouped all members) = members := by
  match members, flat with
  | [], _ => rfl
  | [member], flat => exact (flat member (List.mem_singleton_self member)).conjuncts_eq
  | _ :: _ :: _, _ => rfl

/-- A group adds to another one what its members would add. -/
theorem conjuncts_allOf (normal : ∀ member ∈ members, IsNormal member) :
    conjuncts (allOf members) = members.flatMap conjuncts := by
  refine conjuncts_grouped_all fun part belongs => ?_
  obtain ⟨member, listed, added⟩ := List.mem_flatMap.1 belongs
  exact ((normal member listed).of_mem_conjuncts added).1

theorem allOf_allOf (normal : ∀ member ∈ members, IsNormal member)
    (before after : List Condition) :
    allOf (before ++ [allOf members] ++ after) = allOf (before ++ members ++ after) := by
  have parts : (before ++ [allOf members] ++ after).flatMap conjuncts =
      (before ++ members ++ after).flatMap conjuncts := by
    simp only [List.flatMap_append, List.flatMap_singleton, conjuncts_allOf normal]
  rw [allOf, parts, ← allOf]

/-! ### Groups that ask for one of their members -/

/-- The same among alternatives. Without members the group would hold always, so there must be
some. -/
theorem alternatives_grouped_any (several : members ≠ [])
    (flat : ∀ member ∈ members, IsAlternative member) :
    alternatives (grouped any members) = members ∧ isVacuous (grouped any members) = false := by
  match members, several, flat with
  | [member], _, flat =>
    have single := flat member (List.mem_singleton_self member)
    exact ⟨single.alternatives_eq, single.isVacuous_eq⟩
  | _ :: _ :: _, _, _ => exact ⟨rfl, rfl⟩

/-- A group adds to another one what its members would add, if none of them holds always. -/
theorem alternatives_anyOf (nonempty : members ≠ []) (normal : ∀ member ∈ members, IsNormal member)
    (sound : ∀ member ∈ members, isVacuous member = false) :
    alternatives (anyOf members) = members.flatMap alternatives ∧
      isVacuous (anyOf members) = false := by
  have unconstrained : ¬ members.any isVacuous = true := by simpa using sound
  rw [anyOf, if_neg unconstrained]
  refine alternatives_grouped_any ?_ fun part belongs => ?_
  · intro nothing
    rw [List.flatMap_eq_nil_iff] at nothing
    obtain ⟨first, listed⟩ := List.exists_mem_of_ne_nil members nonempty
    exact alternatives_ne_nil (sound first listed) (nothing first listed)
  · obtain ⟨member, listed, added⟩ := List.mem_flatMap.1 belongs
    exact ((normal member listed).of_mem_alternatives (sound member listed) added).1

/-- A member that holds always by its form makes the group hold always. -/
theorem anyOf_eq_always (member : Condition) (listed : member ∈ members)
    (vacuous : isVacuous member = true) : anyOf members = always := by
  rw [anyOf, if_pos (List.any_eq_true.2 ⟨member, listed, vacuous⟩)]

theorem anyOf_anyOf (nonempty : members ≠ []) (normal : ∀ member ∈ members, IsNormal member)
    (before after : List Condition) :
    anyOf (before ++ [anyOf members] ++ after) = anyOf (before ++ members ++ after) := by
  by_cases sound : ∀ member ∈ members, isVacuous member = false
  · obtain ⟨added, groupSound⟩ := alternatives_anyOf nonempty normal sound
    have membersSound : members.any isVacuous = false := by simpa using sound
    have vacuous : (before ++ [anyOf members] ++ after).any isVacuous =
        (before ++ members ++ after).any isVacuous := by
      simp only [List.any_append, List.any_cons, List.any_nil, groupSound, membersSound,
        Bool.or_false]
    have parts : (before ++ [anyOf members] ++ after).flatMap alternatives =
        (before ++ members ++ after).flatMap alternatives := by
      simp only [List.flatMap_append, List.flatMap_singleton, added]
    rw [anyOf, vacuous, parts, ← anyOf]
  · obtain ⟨member, listed, vacuous⟩ : ∃ member ∈ members, isVacuous member = true := by
      simpa using sound
    have whole : anyOf members = always := anyOf_eq_always member listed vacuous
    rw [anyOf_eq_always always (by simp [whole]) rfl,
      anyOf_eq_always member (by simp [listed]) vacuous]

/-! ### Negations -/

theorem negate_negate {condition : Condition} (normal : IsNormal condition) :
    negate (negate condition) = condition := by
  cases normal with
  | not single => exact negate_eq_not single
  | _ => rfl

end Condition

namespace Search

open Condition

/-- Groups and negations of what was put together do not show in what is put together from them.
The conditions around a group may be any. -/
theorem regrouping_unseen (before members after : List Condition)
    (constructed : ∀ member ∈ members, Constructed member) :
    allOf (before ++ [allOf members] ++ after) = allOf (before ++ members ++ after) ∧
      (members ≠ [] →
        anyOf (before ++ [anyOf members] ++ after) = anyOf (before ++ members ++ after)) ∧
      anyOf (before ++ [anyOf []] ++ after) = always ∧
      ∀ condition, Constructed condition → negate (negate condition) = condition := by
  have normal : ∀ member ∈ members, IsNormal member :=
    fun member listed => (constructed member listed).isNormal
  refine ⟨allOf_allOf normal before after, fun nonempty => anyOf_anyOf nonempty normal before after,
    ?_, fun condition built => negate_negate built.isNormal⟩
  have empty : anyOf [] = always := rfl
  exact anyOf_eq_always always (by simp [empty]) rfl

/-- A group with an empty one, a group of one and a negation among its members. -/
theorem regrouping_unseen_loft :
    let active := equal .active (.boolean true)
    let members := [allOf [], anyOf [mentions .title "Loft"], negate (equal .city (.text "Nice"))]
    (∀ member ∈ members, Constructed member) ∧
      allOf ([active] ++ [allOf members] ++ []) = allOf ([active] ++ members ++ []) ∧
      anyOf ([active] ++ [anyOf members] ++ []) = anyOf ([active] ++ members ++ []) ∧
      negate (negate active) = active := by
  intro active members
  have constructed : ∀ member ∈ members, Constructed member := by
    simp only [members, List.forall_mem_cons]
    refine ⟨.allOf (by simp), .anyOf ?_, .negate (.equal _ _), by simp⟩
    simpa using Constructed.mentions .title "Loft"
  obtain ⟨all, any, -, twice⟩ := regrouping_unseen [active] members [] constructed
  exact ⟨constructed, all, any (by simp [members]), twice active (.equal _ _)⟩

-- Of a bare group in a bare group nothing is left if the members are taken apart twice.
example (field : Field) (value : Value) (a b : Condition) :
    allOf [equal field value, allOf [.all [.all [a, b]]]] = .all [equal field value, a, b] ∧
      allOf [equal field value, .all [.all [a, b]]] = .all [equal field value, .all [a, b]] :=
  ⟨rfl, rfl⟩

end Search

end EstateSearch
