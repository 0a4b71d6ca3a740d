import EstateSearch.Condition.Accepts

/-!
# Decisions of conditions that are put together

`allOf`, `anyOf` and `negate` flatten groups, leave members out and take groups apart. This module
says that none of it shows in a decision:

* the decision of `allOf` is that of all members (`accepts_allOf`);
* the decision of `anyOf` is that of some member, and an empty group holds of every row
  (`accepts_anyOf`);
* the decision of `negate` is the opposite one (`accepts_negate`).

The members may be any conditions, built with the bare constructors too. Conditions are a nested
type, so `Condition.induct` states the induction that goes into the members of groups.
-/

set_option autoImplicit false

namespace EstateSearch.Condition

/-- Induction on conditions: what holds of all members of a group may be used for the group. -/
@[induction_eliminator]
theorem induct {motive : Condition → Prop}
    (always : motive .always)
    (all : ∀ members, (∀ member ∈ members, motive member) → motive (.all members))
    (any : ∀ members, (∀ member ∈ members, motive member) → motive (.any members))
    (not : ∀ condition, motive condition → motive (.not condition))
    (contains : ∀ field needle, motive (.contains field needle))
    (compare : ∀ comparison field value, motive (.compare comparison field value))
    (condition : Condition) : motive condition := by
  refine @Condition.rec motive (fun members => ∀ member ∈ members, motive member)
    always all any not contains compare ?_ ?_ condition
  · simp
  · intro first others holdsOfFirst holdOfOthers member belongs
    rcases List.mem_cons.1 belongs with rfl | belongs
    · exact holdsOfFirst
    · exact holdOfOthers member belongs

variable (row : Row)

@[simp]
theorem accepts_always : accepts row always = true := rfl

@[simp]
theorem accepts_all (members : List Condition) :
    accepts row (all members) = members.all (accepts row) := acceptedByAll_eq row members

@[simp]
theorem accepts_any (members : List Condition) :
    accepts row (any members) = (members.isEmpty || members.any (accepts row)) := by
  rw [accepts, acceptedByAny_eq]

@[simp]
theorem accepts_not (condition : Condition) :
    accepts row (not condition) = !accepts row condition := rfl

/-- A group that asks for all members decides as the group of what a member adds to it. -/
theorem all_accepts_conjuncts (condition : Condition) :
    (conjuncts condition).all (accepts row) = accepts row condition := by
  cases condition <;> simp [conjuncts]

/-- A member that makes a group of alternatives hold always holds always itself. -/
theorem accepts_of_isVacuous {condition : Condition} (h : isVacuous condition = true) :
    accepts row condition = true := by
  unfold isVacuous at h
  split at h
  · rfl
  · rfl
  · cases h

/-- What a member adds to a group that asks for one member decides as the member, unless it holds
always by its form. -/
theorem any_accepts_alternatives {condition : Condition} (h : isVacuous condition = false) :
    (alternatives condition).any (accepts row) = accepts row condition := by
  cases condition with
  | any members =>
    cases members with
    | nil => cases h
    | cons first others => simp [alternatives]
  | always => cases h
  | _ => simp [alternatives]

theorem alternatives_ne_nil {condition : Condition} (h : isVacuous condition = false) :
    alternatives condition ≠ [] := by
  cases condition with
  | any members =>
    rintro rfl
    cases h
  | _ => simp [alternatives]

theorem accepts_grouped_all (members : List Condition) :
    accepts row (grouped all members) = members.all (accepts row) := by
  unfold grouped
  split
  · rfl
  · simp
  · exact accepts_all row members

/-- Without members the group holds always, so the empty case is told apart. -/
theorem accepts_grouped_any (members : List Condition) :
    accepts row (grouped any members) = (members.isEmpty || members.any (accepts row)) := by
  unfold grouped
  split
  · rfl
  · simp
  · exact accepts_any row members

/-- Leaving out and flattening members does not change what a group decides. -/
@[simp]
theorem accepts_allOf (members : List Condition) :
    accepts row (allOf members) = members.all (accepts row) := by
  rw [allOf, accepts_grouped_all, List.all_flatMap]
  simp only [all_accepts_conjuncts]

/-- A group of alternatives decides as its members do, and an empty one holds always. -/
@[simp]
theorem accepts_anyOf (members : List Condition) :
    accepts row (anyOf members) = (members.isEmpty || members.any (accepts row)) := by
  unfold anyOf
  split
  · rename_i vacuous
    obtain ⟨member, belongs, h⟩ := List.any_eq_true.1 vacuous
    have accepted : members.any (accepts row) = true :=
      List.any_eq_true.2 ⟨member, belongs, accepts_of_isVacuous row h⟩
    simp [accepted]
  · rename_i sound
    have sound : ∀ member ∈ members, isVacuous member = false := by simpa using sound
    have decisions : (members.flatMap alternatives).any (accepts row) =
        members.any (accepts row) := by
      rw [List.any_flatMap, Bool.eq_iff_iff, List.any_eq_true, List.any_eq_true]
      refine exists_congr fun member => and_congr_right fun belongs => ?_
      rw [any_accepts_alternatives row (sound member belongs)]
    have emptiness : (members.flatMap alternatives).isEmpty = members.isEmpty := by
      cases members with
      | nil => rfl
      | cons first others => simp [alternatives_ne_nil (sound first (by simp))]
    rw [accepts_grouped_any, decisions, emptiness]

@[simp]
theorem accepts_negate (condition : Condition) :
    accepts row (negate condition) = !accepts row condition := by
  cases condition <;> simp [negate]

end EstateSearch.Condition
