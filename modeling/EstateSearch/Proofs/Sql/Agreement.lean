import EstateSearch.Proofs.Condition.Leaves
import EstateSearch.Proofs.Condition.Unknown
import EstateSearch.Proofs.Sql.Database

/-!
# Fragments mean their conditions

A standard database finds for a fragment the truth of its condition, with nulls for missing fields
(`evaluates_ofCondition`). Of the leaves of the condition one thing is asked: that the text matches
are decided as in memory (`Database.Finds`). That is so for a text or a null and a needle that is not
empty (`Database.IsStandard.finds`); an empty needle would be found in a null, which `COALESCE`
turns into the empty text.

The proof goes over the clause of the condition. Its placeholders stand for the binds in the order
of the leaves (`Supplies`).
-/

set_option autoImplicit false

namespace EstateSearch.Sql

/-! ### Placeholders -/

/-- The placeholders after the number `offset` stand for the binds, in their order. -/
def Supplies (parameters : Nat → Value) : Nat → List Bind → Prop
  | _, [] => True
  | offset, bind :: binds =>
    parameters (offset + 1) = bind.value ∧ Supplies parameters (offset + 1) binds

theorem supplies_append {parameters : Nat → Value} {offset : Nat} {first second : List Bind} :
    Supplies parameters offset (first ++ second) ↔
      Supplies parameters offset first ∧ Supplies parameters (offset + first.length) second := by
  induction first generalizing offset with
  | nil => simp [Supplies]
  | cons bind first ih =>
    rw [List.cons_append, Supplies, ih, Supplies, and_assoc, List.length_cons, Nat.add_right_comm,
      Nat.add_assoc]

/-- The binds of a fragment are found behind those of the statement before it. -/
theorem supplies_parameter (earlier binds : List Bind) :
    Supplies (parameter (earlier ++ binds)) earlier.length binds := by
  induction binds generalizing earlier with
  | nil => trivial
  | cons bind binds ih =>
    refine ⟨by simp [parameter], ?_⟩
    have rest := ih (earlier ++ [bind])
    rwa [List.append_assoc, List.length_append] at rest

/-- What can be read off the clause of each member, wherever its binds are supplied, can be read off
the clauses of all members in a row. -/
theorem map_clauseOfEach {β : Type} {parameters : Nat → Value} {read : Clause → β}
    {meaning : Condition → β} {members : List Condition}
    (h : ∀ member ∈ members, ∀ {offset : Nat}, Supplies parameters offset (binds member) →
      read (clause offset member) = meaning member)
    {offset : Nat} (supplied : Supplies parameters offset (bindsOfEach members)) :
    (clauseOfEach offset members).map read = members.map meaning := by
  induction members generalizing offset with
  | nil => rfl
  | cons member others ih =>
    rw [List.forall_mem_cons] at h
    rw [bindsOfEach, supplies_append] at supplied
    rw [clauseOfEach, List.map_cons, List.map_cons, h.1 supplied.1, ih h.2 supplied.2]

theorem value_of_ofValue? {value : Value} {bind : Bind} (h : Bind.ofValue? value = some bind) :
    bind.value = value ∧ value ≠ .missing := by
  cases value with
  | missing => cases h
  | _ =>
    obtain rfl := Option.some.inj h
    exact ⟨rfl, by simp⟩

/-! ### Leaves -/

/-- The database decides as in memory whether what a field holds contains the needle. -/
def Database.Finds (db : Database) (held : Value) (needle : String) : Prop :=
  db.like (if db.lower held = .missing then .text "" else db.lower held)
    (Bind.containing needle).value (.text "\\") = some (held.contains needle)

namespace Database

variable {db : Database} {needle : String}

/-- In a text the pattern for a needle is found just where the needle is. -/
theorem IsStandard.finds_text (standard : db.IsStandard) (content needle : String) :
    db.Finds (.text content) needle := by
  rw [Finds, standard.lower_text, if_neg (by simp), Bind.containing, Bind.value,
    standard.like_text, String.toList_ofList, likes_containingPattern, Text.lower,
    String.toList_ofList, Value.contains]

/-- A null counts as the empty text, which holds no needle but the empty one. -/
theorem IsStandard.finds_missing (standard : db.IsStandard) (nonempty : needle ≠ "") :
    db.Finds .missing needle := by
  have missed : Text.occursIn needle.toList [] = false := by
    rw [Text.occursIn, List.isEmpty_eq_false_iff]
    simpa using nonempty
  rw [Finds, standard.lower_null, if_pos rfl, Bind.containing, Bind.value, standard.like_text,
    String.toList_ofList, likes_containingPattern, String.toList_empty, missed]
  rfl

/-- A lenient database finds needles in texts only, whatever the type of the column. -/
theorem IsLenient.finds (lenient : db.IsLenient) (nonempty : needle ≠ "") (held : Value) :
    db.Finds held needle := by
  by_cases known : held = .missing
  · rw [known]
    exact lenient.finds_missing nonempty
  · cases held with
    | text content => exact lenient.finds_text content needle
    | missing => exact absurd rfl known
    | _ =>
      rw [Finds, lenient.lower_other _ (by simp), if_neg known,
        lenient.like_other _ _ _ known (by simp)]
      rfl

end Database

/-! ### Conditions -/

section Truth

variable {db : Database} {row : Row} {parameters : Nat → Value}

theorem truth_constant (standard : db.IsStandard) (holds : Bool) :
    (Clause.constant holds).formula.truth db row parameters = some holds := by
  rw [Clause.formula, Formula.truth, Operand.value, Operand.value,
    standard.compare_values _ _ _ (by simp) (by simp)]
  cases holds <;> decide

/-- A comparison with a null is open, any other is decided as in memory. -/
theorem truth_compare (standard : db.IsStandard) (comparison : Comparison) (field : Field)
    {n : Nat} {value : Value} (known : value ≠ .missing) (supplied : parameters n = value) :
    (Clause.compare comparison field n).formula.truth db row parameters =
      (Condition.compare comparison field value).truth row := by
  rw [Clause.formula, Formula.truth, Operand.value, Operand.value, supplied, Condition.truth]
  by_cases missing : row field = .missing
  · rw [missing, standard.compare_null, if_pos ⟨rfl, known⟩]
  · rw [standard.compare_values _ _ _ missing known, if_neg fun isOpen => missing isOpen.1]

variable (db row) in
/-- Every text match among the leaves is decided as in memory. -/
def FindsAll (leaves : List Condition) : Prop :=
  ∀ field needle, .contains field needle ∈ leaves → db.Finds (row field) needle

theorem truth_clauseOfEach {members : List Condition}
    (h : ∀ member ∈ members, FindsAll db row member.leaves →
      ∀ {offset : Nat}, Supplies parameters offset (binds member) →
        (clause offset member).formula.truth db row parameters = member.truth row)
    (finds : FindsAll db row (members.flatMap Condition.leaves))
    {offset : Nat} (supplied : Supplies parameters offset (bindsOfEach members)) :
    ((clauseOfEach offset members).map Clause.formula).map (Formula.truth db row parameters) =
      members.map (Condition.truth row) := by
  have findsMember : ∀ member ∈ members, FindsAll db row member.leaves :=
    fun member belongs field needle leaf =>
      finds field needle (List.mem_flatMap.2 ⟨member, belongs, leaf⟩)
  rw [List.map_map]
  exact map_clauseOfEach (fun member belongs => h member belongs (findsMember member belongs))
    supplied

/-- The formula of a condition has the truth of the condition. -/
theorem truth_clause (standard : db.IsStandard) (condition : Condition)
    (finds : FindsAll db row condition.leaves)
    {offset : Nat} (supplied : Supplies parameters offset (binds condition)) :
    (clause offset condition).formula.truth db row parameters = condition.truth row := by
  induction condition generalizing offset with
  | always => exact truth_constant standard true
  | all members ih =>
    rw [Condition.leaves_all] at finds
    have truths := truth_clauseOfEach ih finds supplied
    cases members with
    | nil => exact truth_constant standard true
    | cons first others =>
      rw [Condition.truth_all, clause, Clause.formula, Clause.formulaOfEach_eq,
        Formula.truth_grouped_all, ← truths]
      rfl
  | any members ih =>
    rw [Condition.leaves_any] at finds
    have truths := truth_clauseOfEach ih finds supplied
    cases members with
    | nil => exact truth_constant standard true
    | cons first others =>
      rw [Condition.truth_any row (by simp), clause, Clause.formula, Clause.formulaOfEach_eq,
        Formula.truth_grouped_any, ← truths]
      rfl
  | not condition ih =>
    rw [clause, Clause.formula, Formula.truth, Condition.truth, ih finds supplied]
  | contains field needle =>
    have found := finds field needle (by simp [Condition.leaves])
    have pattern : parameters (offset + 1) = (Bind.containing needle).value := supplied.1
    rw [clause, Clause.formula, Formula.truth, Condition.truth, ← found, ← pattern]
    rfl
  -- A comparison with a missing value takes no placeholder and is the constant false.
  | compare comparison field value =>
    cases bound : Bind.ofValue? value with
    | some bind =>
      obtain ⟨rfl, known⟩ := value_of_ofValue? bound
      rw [binds, bound] at supplied
      rw [clause, bound]
      exact truth_compare standard comparison field known supplied.1
    | none =>
      obtain rfl := Bind.ofValue?_eq_none_iff.1 bound
      rw [clause, bound, Condition.truth, if_neg (by simp), Condition.holds_value_missing]
      exact truth_constant standard false

end Truth

/-- A standard database finds for the fragment of a condition the truth of the condition. -/
theorem evaluates_ofCondition {db : Database} {row : Row} (standard : db.IsStandard)
    {condition : Condition} (finds : FindsAll db row condition.leaves) (earlier : List Bind) :
    (Fragment.ofCondition earlier.length condition).Evaluates db row earlier
      (condition.truth row) := by
  rw [Fragment.ofCondition_eq]
  refine ⟨(clause earlier.length condition).formula, Clause.readsText _, ?_⟩
  exact truth_clause standard condition finds (supplies_parameter earlier _)

end EstateSearch.Sql
