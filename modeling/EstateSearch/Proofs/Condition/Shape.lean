import EstateSearch.Proofs.Condition.Groups
import Mathlib.Data.List.Forall2

/-!
# Conditions of the same shape

Two conditions have the same shape if they are the same tree but for what is typed into it: the
needles, and the values of comparisons as long as both or none of them are missing (`SameShape`).

Putting conditions together looks at their shape only. `allOf`, `anyOf` and `negate` make conditions
of the same shape from members of the same shape (`sameShape_allOf`, `sameShape_anyOf`,
`sameShape_negate`), whatever they flatten, drop or take apart on the way.
-/

set_option autoImplicit false

namespace EstateSearch.Condition

/-- The same tree but for needles and values. -/
inductive SameShape : Condition → Condition → Prop
  | always : SameShape always always
  | all {pairs : List (Condition × Condition)} (h : ∀ pair ∈ pairs, SameShape pair.1 pair.2) :
      SameShape (all (pairs.map Prod.fst)) (all (pairs.map Prod.snd))
  | any {pairs : List (Condition × Condition)} (h : ∀ pair ∈ pairs, SameShape pair.1 pair.2) :
      SameShape (any (pairs.map Prod.fst)) (any (pairs.map Prod.snd))
  | not {condition other : Condition} (h : SameShape condition other) :
      SameShape (not condition) (not other)
  | contains (field : Field) (needle needle' : String) :
      SameShape (contains field needle) (contains field needle')
  | compare (comparison : Comparison) (field : Field) {value value' : Value}
      (h : value = .missing ↔ value' = .missing) :
      SameShape (compare comparison field value) (compare comparison field value')

/-! ### Lists of conditions -/

abbrev SameShapes : List Condition → List Condition → Prop := List.Forall₂ SameShape

/-- Members of the same shapes are given as pairs, so that `map` and `flatMap` apply to both
lists. -/
theorem sameShapes_of_pairs {pairs : List (Condition × Condition)}
    (h : ∀ pair ∈ pairs, SameShape pair.1 pair.2) :
    SameShapes (pairs.map Prod.fst) (pairs.map Prod.snd) := by
  rw [SameShapes, List.forall₂_map_left_iff, List.forall₂_map_right_iff, List.forall₂_same]
  exact h

/-- The converse: two lists of the same shapes come from one list of pairs. -/
theorem SameShapes.exists_pairs {members others : List Condition} (h : SameShapes members others) :
    ∃ pairs : List (Condition × Condition), (∀ pair ∈ pairs, SameShape pair.1 pair.2) ∧
      pairs.map Prod.fst = members ∧ pairs.map Prod.snd = others := by
  refine ⟨members.zip others, ?_, ?_, ?_⟩
  · rintro ⟨member, other⟩ belongs
    exact List.forall₂_zip h belongs
  · exact List.map_fst_zip (Nat.le_of_eq h.length_eq)
  · exact List.map_snd_zip (Nat.le_of_eq h.length_eq.symm)

theorem SameShapes.all {members others : List Condition} (h : SameShapes members others) :
    SameShape (all members) (all others) := by
  obtain ⟨pairs, alike, rfl, rfl⟩ := h.exists_pairs
  exact .all alike

theorem SameShapes.any {members others : List Condition} (h : SameShapes members others) :
    SameShape (any members) (any others) := by
  obtain ⟨pairs, alike, rfl, rfl⟩ := h.exists_pairs
  exact .any alike

/-! ### What members add to a group -/

variable {condition other : Condition} {members others : List Condition}

/-- What a condition adds to a group for all hangs on its shape. -/
theorem SameShape.conjuncts (h : SameShape condition other) :
    SameShapes (conjuncts condition) (conjuncts other) := by
  have whole : SameShapes [condition] [other] := .cons h .nil
  cases h with
  | always => exact .nil
  | all alike => exact sameShapes_of_pairs alike
  | _ => exact whole

theorem SameShape.alternatives (h : SameShape condition other) :
    SameShapes (alternatives condition) (alternatives other) := by
  have whole : SameShapes [condition] [other] := .cons h .nil
  cases h with
  | any alike => exact sameShapes_of_pairs alike
  | _ => exact whole

theorem SameShape.isVacuous_eq (h : SameShape condition other) :
    isVacuous condition = isVacuous other := by
  cases h with
  | @any pairs alike => cases pairs <;> rfl
  | _ => rfl

theorem SameShapes.any_isVacuous_eq (h : SameShapes members others) :
    members.any isVacuous = others.any isVacuous := by
  induction h with
  | nil => rfl
  | cons first rest ih => rw [List.any_cons, List.any_cons, first.isVacuous_eq, ih]

theorem SameShapes.grouped {group : List Condition → Condition}
    (whole : SameShape (group members) (group others)) (h : SameShapes members others) :
    SameShape (grouped group members) (grouped group others) := by
  cases h with
  | nil => exact .always
  | cons first rest =>
    cases rest with
    | nil => exact first
    | cons second rest => exact whole

/-! ### Putting together -/

/-- The shape of a group for all hangs on the shapes of its members. -/
theorem sameShape_allOf (h : SameShapes members others) : SameShape (allOf members) (allOf others) := by
  have added : SameShapes (members.flatMap conjuncts) (others.flatMap conjuncts) :=
    List.rel_flatMap h fun _ _ alike => alike.conjuncts
  exact added.grouped added.all

theorem sameShape_anyOf (h : SameShapes members others) : SameShape (anyOf members) (anyOf others) := by
  have added : SameShapes (members.flatMap alternatives) (others.flatMap alternatives) :=
    List.rel_flatMap h fun _ _ alike => alike.alternatives
  unfold anyOf
  rw [h.any_isVacuous_eq]
  split
  · exact .always
  · exact added.grouped added.any

theorem sameShape_negate (h : SameShape condition other) :
    SameShape (negate condition) (negate other) := by
  have opposite : SameShape (not condition) (not other) := .not h
  cases h with
  | not alike => exact alike
  | _ => exact opposite

theorem sameShape_mentions (field : Field) (needle needle' : String) :
    SameShape (mentions field needle) (mentions field needle') :=
  .contains field (Text.lower needle) (Text.lower needle')

end EstateSearch.Condition
