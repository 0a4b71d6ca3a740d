import EstateSearch.Proofs.Condition.Groups
import EstateSearch.Proofs.Sql.Truth

/-!
# Conditions over missing fields

A record in memory rejects every comparison with a missing field. A database has no verdict on such
a comparison: where the field is null its truth is unknown, and a negation leaves it so. This module
compares the two readings of a condition.

* `truth` is the three-valued reading.
* `guessed` is a two-valued reading that comes as close: every open comparison counts as a given
  guess, and a negation turns the guess around. A condition is true if it is accepted with the guess
  against it, and false if it is rejected with the guess in its favour (`truth_eq_some_iff`).
* What is accepted with the guess against it is accepted in memory (`accepts_of_guessed`), so a
  database never accepts what is rejected in memory.
* The readings agree where no open comparison stands under an odd number of negations
  (`guessed_eq_accepts`).
-/

set_option autoImplicit false

namespace EstateSearch

/-- A missing field is compared with a value. -/
abbrev Value.IsOpen (held value : Value) : Prop := held = .missing ∧ value ≠ .missing

namespace Condition

mutual

/-- The truth of a condition for a row whose missing fields are nulls. A comparison with a missing
value is false, also of a null. -/
def truth (row : Row) : Condition → Sql.Truth
  | always => some true
  | all members => .all (truthOfEach row members)
  | any members => if members.isEmpty then some true else .any (truthOfEach row members)
  | not condition => .not (truth row condition)
  | contains field needle => some ((row field).contains needle)
  | compare comparison field value =>
    if (row field).IsOpen value then none else some (comparison.holds (row field) value)

def truthOfEach (row : Row) : List Condition → List Sql.Truth
  | [] => []
  | member :: others => truth row member :: truthOfEach row others

end

mutual

/-- Is the condition accepted if an open comparison counts as `guess`, and as its opposite under a
negation? -/
def guessed (guess : Bool) (row : Row) : Condition → Bool
  | always => true
  | all members => guessedForAll guess row members
  | any members => members.isEmpty || guessedForAny guess row members
  | not condition => !guessed (!guess) row condition
  | contains field needle => (row field).contains needle
  | compare comparison field value =>
    if (row field).IsOpen value then guess else comparison.holds (row field) value

def guessedForAll (guess : Bool) (row : Row) : List Condition → Bool
  | [] => true
  | member :: others => guessed guess row member && guessedForAll guess row others

def guessedForAny (guess : Bool) (row : Row) : List Condition → Bool
  | [] => false
  | member :: others => guessed guess row member || guessedForAny guess row others

end

mutual

/-- Does an open comparison stand under an odd number of negations? `negated` tells whether the
negations around the condition are odd in number. -/
def negatesOpen (negated : Bool) (row : Row) : Condition → Bool
  | always => false
  | all members => oneNegatesOpen negated row members
  | any members => oneNegatesOpen negated row members
  | not condition => negatesOpen (!negated) row condition
  | contains _ _ => false
  | compare _ field value => negated && decide ((row field).IsOpen value)

def oneNegatesOpen (negated : Bool) (row : Row) : List Condition → Bool
  | [] => false
  | member :: others => negatesOpen negated row member || oneNegatesOpen negated row others

end

variable (row : Row)

theorem truthOfEach_eq (members : List Condition) :
    truthOfEach row members = members.map (truth row) := by
  induction members with
  | nil => rfl
  | cons member others ih => rw [truthOfEach, ih, List.map_cons]

theorem truth_all (members : List Condition) :
    truth row (all members) = .all (members.map (truth row)) := by
  rw [truth, truthOfEach_eq]

theorem truth_any {members : List Condition} (h : members ≠ []) :
    truth row (any members) = .any (members.map (truth row)) := by
  rw [truth, truthOfEach_eq, if_neg (by simpa using h)]

@[simp]
theorem guessed_all (guess : Bool) (members : List Condition) :
    guessed guess row (all members) = members.all (guessed guess row) := by
  rw [guessed]
  induction members with
  | nil => rfl
  | cons member others ih => rw [guessedForAll, ih, List.all_cons]

@[simp]
theorem guessed_any (guess : Bool) (members : List Condition) :
    guessed guess row (any members) = (members.isEmpty || members.any (guessed guess row)) := by
  rw [guessed]
  congr 1
  induction members with
  | nil => rfl
  | cons member others ih => rw [guessedForAny, ih, List.any_cons]

theorem oneNegatesOpen_eq (negated : Bool) (members : List Condition) :
    oneNegatesOpen negated row members = members.any (negatesOpen negated row) := by
  induction members with
  | nil => rfl
  | cons member others ih => rw [oneNegatesOpen, ih, List.any_cons]

@[simp]
theorem negatesOpen_all (negated : Bool) (members : List Condition) :
    negatesOpen negated row (all members) = members.any (negatesOpen negated row) :=
  oneNegatesOpen_eq row negated members

@[simp]
theorem negatesOpen_any (negated : Bool) (members : List Condition) :
    negatesOpen negated row (any members) = members.any (negatesOpen negated row) :=
  oneNegatesOpen_eq row negated members

theorem any_negatesOpen_conjuncts (negated : Bool) (condition : Condition) :
    (conjuncts condition).any (negatesOpen negated row) = negatesOpen negated row condition := by
  cases condition with
  | always => rfl
  | _ => simp [conjuncts]

theorem any_negatesOpen_alternatives (negated : Bool) (condition : Condition) :
    (alternatives condition).any (negatesOpen negated row) = negatesOpen negated row condition := by
  cases condition <;> simp [alternatives]

theorem negatesOpen_grouped {group : List Condition → Condition} {negated : Bool}
    (h : ∀ members, negatesOpen negated row (group members) =
      members.any (negatesOpen negated row)) (members : List Condition) :
    negatesOpen negated row (grouped group members) = members.any (negatesOpen negated row) := by
  unfold grouped
  split
  · rfl
  · simp
  · exact h members

/-- Simplifying a group for all moves no comparison under another number of negations. -/
@[simp]
theorem negatesOpen_allOf (negated : Bool) (members : List Condition) :
    negatesOpen negated row (allOf members) = members.any (negatesOpen negated row) := by
  rw [allOf, negatesOpen_grouped row (negatesOpen_all row negated), List.any_flatMap]
  simp only [any_negatesOpen_conjuncts]

/-- Simplifying a group of alternatives brings no open comparison under a negation. -/
theorem negatesOpen_anyOf {negated : Bool} {members : List Condition}
    (h : ∀ member ∈ members, negatesOpen negated row member = false) :
    negatesOpen negated row (anyOf members) = false := by
  unfold anyOf
  split
  · rfl
  · rw [negatesOpen_grouped row (negatesOpen_any row negated), List.any_flatMap, List.any_eq_false]
    intro member belongs
    rw [any_negatesOpen_alternatives, h member belongs]
    simp

/-- One more negation turns odd numbers of negations into even ones. -/
@[simp]
theorem negatesOpen_negate (negated : Bool) (condition : Condition) :
    negatesOpen negated row (negate condition) = negatesOpen (!negated) row condition := by
  cases condition <;> simp [negate, negatesOpen]

/-- In memory a missing field compares with nothing. -/
theorem holds_missing (comparison : Comparison) (value : Value) :
    comparison.holds .missing value = false := by
  cases comparison <;> cases value <;> rfl

/-- Nothing compares with a missing value. -/
theorem holds_value_missing (comparison : Comparison) (held : Value) :
    comparison.holds held .missing = false := by
  cases comparison <;> cases held <;> rfl

/-- A truth value is reached for certain: true means accepted with the guess against the condition,
false means rejected with the guess in its favour. -/
theorem truth_eq_some_iff (condition : Condition) (verdict : Bool) :
    truth row condition = some verdict ↔ guessed (!verdict) row condition = verdict := by
  -- A verdict is certain if it is reached even when every open comparison speaks against it. The
  -- verdict is generalized as a negation asks for the opposite one.
  induction condition generalizing verdict with
  | always => simp [truth, guessed]
  | all members ih =>
    rw [truth_all, guessed_all]
    cases verdict with
    | true =>
      rw [Sql.Truth.all_eq_true, List.forall_mem_map, List.all_eq_true]
      exact forall₂_congr fun member belongs => ih member belongs true
    | false =>
      rw [Sql.Truth.all_eq_false, List.mem_map, List.all_eq_false]
      refine exists_congr fun member => and_congr_right fun belongs => ?_
      rw [ih member belongs false, Bool.not_eq_true]
  | any members ih =>
    rw [guessed_any]
    by_cases empty : members = []
    · simp [empty, truth]
    · rw [truth_any row empty]
      have notEmpty : members.isEmpty = false := by simpa using empty
      rw [notEmpty, Bool.false_or]
      cases verdict with
      | true =>
        rw [Sql.Truth.any_eq_true, List.mem_map, List.any_eq_true]
        exact exists_congr fun member => and_congr_right fun belongs => ih member belongs true
      | false =>
        rw [Sql.Truth.any_eq_false, List.forall_mem_map, List.any_eq_false]
        refine forall₂_congr fun member belongs => ?_
        rw [ih member belongs false, Bool.not_eq_true]
  | not condition ih =>
    rw [truth, Sql.Truth.not_eq_some, ih, guessed]
    cases verdict <;> simp
  | contains field needle => simp [truth, guessed]
  | compare comparison field value =>
    rw [truth, guessed]
    split
    · cases verdict <;> simp
    · simp

/-- A guess moves a decision to its own side only: what is rejected in memory stays rejected if
open comparisons count as failed, and what is accepted stays accepted if they count as met. -/
theorem guessed_of_accepts (condition : Condition) {guess : Bool}
    (h : accepts row condition = guess) : guessed guess row condition = guess := by
  -- Counting the open comparisons in favour of `guess` can only help to reach it.
  induction condition generalizing guess with
  | always => simpa [guessed] using h
  | all members ih =>
    rw [guessed_all]
    rw [accepts_all] at h
    cases guess with
    | true =>
      rw [List.all_eq_true] at h ⊢
      exact fun member belongs => ih member belongs (h member belongs)
    | false =>
      rw [List.all_eq_false] at h ⊢
      obtain ⟨member, belongs, rejected⟩ := h
      refine ⟨member, belongs, ?_⟩
      rw [ih member belongs (by simpa using rejected)]
      simp
  | any members ih =>
    rw [guessed_any]
    rw [accepts_any] at h
    cases guess with
    | true =>
      rw [Bool.or_eq_true, List.any_eq_true] at h ⊢
      refine h.imp_right fun ⟨member, belongs, accepted⟩ => ?_
      exact ⟨member, belongs, ih member belongs accepted⟩
    | false =>
      rw [Bool.or_eq_false_iff, List.any_eq_false] at h ⊢
      refine h.imp_right fun rejected member belongs => ?_
      rw [ih member belongs (by simpa using rejected member belongs)]
      simp
  | not condition ih =>
    rw [accepts_not] at h
    have opposite : accepts row condition = !guess := by rw [← h, Bool.not_not]
    rw [guessed, ih opposite, Bool.not_not]
  | contains field needle => exact h
  | compare comparison field value =>
    rw [guessed]
    split
    · rfl
    · exact h

/-- A database that finds a condition true of a row accepts no record that is rejected in memory. -/
theorem accepts_of_guessed {condition : Condition} (h : guessed false row condition = true) :
    accepts row condition = true := by
  cases decision : accepts row condition with
  | true => rfl
  | false =>
    rw [guessed_of_accepts row condition decision] at h
    cases h

/-- Without an open comparison under an odd number of negations nothing hangs on a guess against
the condition. -/
theorem guessed_eq_accepts (condition : Condition) {negated : Bool}
    (h : negatesOpen negated row condition = false) :
    guessed negated row condition = accepts row condition := by
  induction condition generalizing negated with
  | always => rfl
  | all members ih =>
    rw [negatesOpen_all, List.any_eq_false] at h
    rw [guessed_all, accepts_all, Bool.eq_iff_iff, List.all_eq_true, List.all_eq_true]
    refine forall₂_congr fun member belongs => ?_
    rw [ih member belongs (by simpa using h member belongs)]
  | any members ih =>
    rw [negatesOpen_any, List.any_eq_false] at h
    rw [guessed_any, accepts_any]
    congr 1
    rw [Bool.eq_iff_iff, List.any_eq_true, List.any_eq_true]
    refine exists_congr fun member => and_congr_right fun belongs => ?_
    rw [ih member belongs (by simpa using h member belongs)]
  -- Under a negation the guess is turned around together with the parity.
  | not condition ih =>
    rw [negatesOpen] at h
    rw [guessed, accepts_not, ih h]
  | contains field needle => rfl
  | compare comparison field value =>
    rw [guessed, accepts]
    split
    · rename_i isOpen
      rw [isOpen.1, holds_missing]
      simpa [negatesOpen, isOpen] using h
    · rfl

end Condition

end EstateSearch
