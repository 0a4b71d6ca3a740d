import EstateSearch.Proofs.Sql.Agreement
import Mathlib.Data.List.Forall2

/-!
# What a fragment tells of its condition

Conditions with the same text and the same binds accept the same rows (`accepts_of_fragment`).
Different conditions may well have the same text: empty groups look like the condition that always
holds, a group of one like its member under a negation, and all comparisons with a missing value look
the same. None of this matters, as the decision can be found from the fragment alone.

To find it, the one reading of the text is evaluated by a database that leaves no comparison open
(`Database.decisive`). A standard database would not do: it has no verdict on some rows that are
accepted in memory.

Numbers may differ in the binds if they are equal as numbers, as the two zeros are (`Value.Alike`).
-/

set_option autoImplicit false

namespace EstateSearch

/-! ### Values that cannot be told apart -/

/-- The same value, or numbers that are equal. -/
inductive Value.Alike : Value → Value → Prop
  | same (value : Value) : Alike value value
  | number {x y : Binary64} (equal : x.sameNumber y = true) : Alike (number x) (number y)

theorem Binary64.compare?_congr {x y : Binary64} (equal : x.sameNumber y = true) (z : Binary64) :
    z.compare? x = z.compare? y := by
  rw [sameNumber, compare?] at equal
  split at equal
  · cases equal
  · rename_i numbers
    have rank : x.rank = y.rank := by simpa using equal
    obtain ⟨ofX, ofY⟩ : x.isNaN = false ∧ y.isNaN = false := by simpa using numbers
    rw [compare?, compare?, ofX, ofY, rank]

namespace Value.Alike

variable {value value' : Value}

/-- Alike values stand in the same order to every other value. -/
theorem order?_eq (alike : value.Alike value') (held : Value) :
    held.order? value = held.order? value' := by
  cases alike with
  | same => rfl
  | number equal =>
    cases held <;> simp [order?, orderNumbers?, asNumber?, Binary64.compare?_congr equal]

theorem equals_eq (alike : value.Alike value') (held : Value) :
    held.equals value = held.equals value' := by
  cases alike with
  | same => rfl
  | number equal =>
    cases held <;> simp [equals, orderNumbers?, asNumber?, Binary64.compare?_congr equal]

/-- A field compares in the same way with values that cannot be told apart. -/
theorem holds_eq (alike : value.Alike value') (comparison : Comparison) (held : Value) :
    comparison.holds held value = comparison.holds held value' := by
  cases comparison with
  | equal => exact alike.equals_eq held
  | atLeast => rw [Comparison.holds, Comparison.holds, alike.order?_eq]
  | atMost => rw [Comparison.holds, Comparison.holds, alike.order?_eq]

end Value.Alike

namespace Sql

/-- The binds stand for values that cannot be told apart. -/
def Bind.Alike (bind bind' : Bind) : Prop := bind.value.Alike bind'.value

theorem parameter_alike {binds binds' : List Bind} (alike : List.Forall₂ Bind.Alike binds binds')
    (n : Nat) : (parameter binds n).Alike (parameter binds' n) := by
  cases n with
  | zero => exact .same _
  | succ n =>
    induction alike generalizing n with
    | nil => exact .same _
    | cons first rest ih =>
      cases n with
      | zero => exact first
      | succ n => exact ih n

/-! ### A database that leaves nothing open -/

/-- The database that decides every comparison as conditions do, those with nulls too. What is no
text has a lowercase that is neither a text nor a null, so that it is not taken for the empty text. -/
def Database.decisive : Database where
  compare comparison held value := some (comparison.holds held value)
  lower
    | .text content => .text (Text.lower content)
    | _ => .boolean false
  like
    | .text content, .text pattern, _ => some (likes pattern.toList content.toList)
    | _, _, _ => some false

variable {row : Row} {parameters parameters' : Nat → Value}

theorem truth_decisive_constant (holds : Bool) :
    (Clause.constant holds).formula.truth .decisive row parameters = some holds := by
  cases holds <;> rfl

/-- The decisive database finds needles as memory does, also the empty one. -/
theorem Database.decisive_finds (held : Value) (needle : String) :
    decisive.Finds held needle := by
  cases held with
  | text content =>
    simp [Finds, decisive, Bind.containing, Bind.value, likes_containingPattern, Text.lower,
      Value.contains]
  | _ => rfl

theorem truth_decisive_like (field : Field) (n : Nat) {needle : String}
    (supplied : parameters n = (Bind.containing needle).value) :
    (Clause.like field n).formula.truth .decisive row parameters =
      some ((row field).contains needle) := by
  rw [← Database.decisive_finds, ← supplied]
  rfl

variable (row parameters) in
theorem truth_decisive_all (members : List Clause) :
    (Clause.ofMembers .all members).formula.truth .decisive row parameters =
      .all (members.map fun member => member.formula.truth .decisive row parameters) := by
  cases members with
  | nil => exact truth_decisive_constant true
  | cons first others =>
    rw [Clause.ofMembers, Clause.formula, Clause.formulaOfEach_eq, ← List.map_cons,
      Formula.truth_grouped_all, List.map_map]
    rfl

variable (row parameters) in
theorem truth_decisive_any {members : List Clause} (nonempty : members ≠ []) :
    (Clause.ofMembers .any members).formula.truth .decisive row parameters =
      .any (members.map fun member => member.formula.truth .decisive row parameters) := by
  cases members with
  | nil => exact absurd rfl nonempty
  | cons first others =>
    rw [Clause.ofMembers, Clause.formula, Clause.formulaOfEach_eq, ← List.map_cons,
      Formula.truth_grouped_any, List.map_map]
    rfl

/-- The decisive database finds for a condition the decision in memory. -/
theorem truth_decisive (condition : Condition) {offset : Nat}
    (supplied : Supplies parameters offset (binds condition)) :
    (clause offset condition).formula.truth .decisive row parameters =
      some (condition.accepts row) := by
  induction condition generalizing offset with
  | always => exact truth_decisive_constant true
  | all members ih =>
    rw [clause_all, truth_decisive_all, map_clauseOfEach ih supplied, Truth.all_map_some,
      Condition.accepts_all]
  -- An empty group of alternatives is accepted in memory, and its clause is the constant true.
  | any members ih =>
    cases members with
    | nil => exact truth_decisive_constant true
    | cons first others =>
      rw [clause_any, truth_decisive_any row parameters (clauseOfEach_ne_nil (by simp) offset),
        map_clauseOfEach ih supplied, Truth.any_map_some, Condition.accepts_any]
      rfl
  | not condition ih =>
    rw [clause, Clause.formula, Formula.truth, ih supplied]
    rfl
  | contains field needle => exact truth_decisive_like field (offset + 1) supplied.1
  | compare comparison field value =>
    cases bound : Bind.ofValue? value with
    | some bind =>
      obtain ⟨rfl, -⟩ := value_of_ofValue? bound
      rw [binds, bound] at supplied
      rw [clause, bound, Clause.formula, Formula.truth, Operand.value, Operand.value, supplied.1]
      rfl
    | none =>
      obtain rfl := Bind.ofValue?_eq_none_iff.1 bound
      rw [clause, bound, Condition.accepts, Condition.holds_value_missing]
      exact truth_decisive_constant false

theorem Database.decisive_like_congr {pattern pattern' : Value} (alike : pattern.Alike pattern')
    (text escape : Value) : decisive.like text pattern escape = decisive.like text pattern' escape := by
  cases alike with
  | same => rfl
  | number equal => cases text <;> rfl

/-- The decisive database cannot tell alike values apart. -/
theorem truth_decisive_congr (alike : ∀ n, (parameters n).Alike (parameters' n)) (clause : Clause) :
    clause.formula.truth .decisive row parameters =
      clause.formula.truth .decisive row parameters' := by
  induction clause with
  | constant holds => rw [truth_decisive_constant, truth_decisive_constant]
  | like field n => exact Database.decisive_like_congr (alike n) _ _
  | compare comparison field n =>
    exact congrArg some ((alike n).holds_eq comparison (row field))
  | not clause ih => rw [Clause.formula, Formula.truth, Formula.truth, ih]
  | all first others ih =>
    have decided := fun p => truth_decisive_all row p (first :: others)
    exact (decided parameters).trans
      ((congrArg Truth.all (List.map_congr_left ih)).trans (decided parameters').symm)
  | any first others ih =>
    have nonempty : first :: others ≠ [] := by simp
    have decided := fun p => truth_decisive_any row p nonempty
    exact (decided parameters).trans
      ((congrArg Truth.any (List.map_congr_left ih)).trans (decided parameters').symm)

/-- The decision in memory is the truth of the clause in a database, so it hangs on text and values
only. -/
theorem accepts_eq_truth (row : Row) (earlier : List Bind) (condition : Condition) :
    some (condition.accepts row) =
      (clause earlier.length condition).formula.truth .decisive row
        (parameter (earlier ++ binds condition)) :=
  (truth_decisive condition (supplies_parameter earlier (binds condition))).symm

/-- Conditions with the same text and the same binds accept the same rows. -/
theorem accepts_of_fragment {condition other : Condition} {offset : Nat}
    (text : (Fragment.ofCondition offset condition).text = (Fragment.ofCondition offset other).text)
    (alike : List.Forall₂ Bind.Alike (Fragment.ofCondition offset condition).binds
      (Fragment.ofCondition offset other).binds) (row : Row) :
    condition.accepts row = other.accepts row := by
  simp only [Fragment.ofCondition_eq] at text alike
  have formula : (clause offset condition).formula = (clause offset other).formula := by
    have reads := Clause.readsText (clause offset condition)
    rw [text] at reads
    exact reads.unique (Clause.readsText (clause offset other))
  -- Any binds will do for the statement before the fragment.
  let earlier := List.replicate offset (Bind.boolean false)
  have length : earlier.length = offset := List.length_replicate
  have parameters : ∀ n, (parameter (earlier ++ binds condition) n).Alike
      (parameter (earlier ++ binds other) n) := by
    refine parameter_alike (List.rel_append ?_ alike)
    exact List.forall₂_same.2 fun bind _ => .same bind.value
  have decision := accepts_eq_truth row earlier condition
  rw [length, truth_decisive_congr parameters, formula, ← length, ← accepts_eq_truth] at decision
  exact Option.some.inj decision

/-- A negated comparison and a negated group of one, with the two zeros, for a property that costs
nothing. -/
theorem accepts_of_fragment_zeros :
    let free := { Property.blank with price := some (.ofMagnitude false 0) }
    let condition := .not (.compare .atLeast .price (.number (.ofMagnitude false 0)))
    let other := .not (.all [.compare .atLeast .price (.number (.ofMagnitude true 0))])
    (Fragment.ofCondition 1 condition).text = (Fragment.ofCondition 1 other).text ∧
      List.Forall₂ Bind.Alike (Fragment.ofCondition 1 condition).binds
        (Fragment.ofCondition 1 other).binds ∧
      condition.accepts free.row = other.accepts free.row := by
  intro free condition other
  have text : (Fragment.ofCondition 1 condition).text = (Fragment.ofCondition 1 other).text := by
    decide +kernel
  have alike : List.Forall₂ Bind.Alike (Fragment.ofCondition 1 condition).binds
      (Fragment.ofCondition 1 other).binds := .cons (.number (by decide)) .nil
  exact ⟨text, alike, accepts_of_fragment text alike free.row⟩

end Sql

end EstateSearch
