import EstateSearch.Proofs.Condition.Leaves
import EstateSearch.Proofs.Sql.Decoding
import EstateSearch.Proofs.Sql.Placeholders
import EstateSearch.Proofs.Value.Order

/-!
# The columns of a fragment

The words of a SQL text that are columns are the fields that its condition looks at, leaf by leaf
(`namedColumns_ofCondition`). They are also all that the decision in memory depends on
(`Condition.accepts_congr`). Comparisons with a missing value are written without a column, and in
memory they hold of no record whatever the field.
-/

set_option autoImplicit false

namespace EstateSearch

namespace Value.Alike

variable {held held' : Value}

/-- Fields that cannot be told apart compare in the same way with any value. -/
theorem holds_held_eq (alike : held.Alike held') (comparison : Comparison) (value : Value) :
    comparison.holds held value = comparison.holds held' value := by
  have order : held.order? value = held'.order? value := by
    rw [order?_swap value held, order?_swap value held', alike.order?_eq]
  cases comparison with
  | equal =>
    exact (equals_comm held value).trans ((alike.equals_eq value).trans (equals_comm value held'))
  | atLeast => rw [Comparison.holds, Comparison.holds, order]
  | atMost => rw [Comparison.holds, Comparison.holds, order]

theorem contains_eq (alike : held.Alike held') (needle : String) :
    held.contains needle = held'.contains needle := by
  cases alike <;> rfl

end Value.Alike

/-! ### What a condition looks at -/

namespace Condition

/-- The field that a leaf looks at. A comparison with a missing value looks at none. -/
def lookedAt : Condition → List Field
  | contains field _ => [field]
  | compare _ field value => if value = .missing then [] else [field]
  | _ => []

/-- The fields that a condition looks at, leaf by leaf. -/
def columns (condition : Condition) : List Field := condition.leaves.flatMap lookedAt

@[simp]
theorem columns_all (members : List Condition) :
    (all members).columns = members.flatMap columns := by
  rw [columns, leaves_all, List.flatMap_assoc]
  rfl

@[simp]
theorem columns_any (members : List Condition) :
    (any members).columns = members.flatMap columns := by
  rw [columns, leaves_any, List.flatMap_assoc]
  rfl

/-- Simplifying a group for all names the same columns. -/
@[simp]
theorem columns_allOf (members : List Condition) :
    (allOf members).columns = members.flatMap columns := by
  rw [columns, leaves_allOf, List.flatMap_assoc]
  rfl

theorem columns_contains (field : Field) (needle : String) :
    (contains field needle).columns = [field] := rfl

theorem columns_compare_of_ne {value : Value} (known : value ≠ .missing) (comparison : Comparison)
    (field : Field) : (compare comparison field value).columns = [field] := by
  simp [columns, leaves, lookedAt, known]

theorem columns_compare_missing (comparison : Comparison) (field : Field) :
    (compare comparison field .missing).columns = [] := rfl

/-- Nothing but the fields that a condition looks at matters for its decision. -/
theorem accepts_congr {condition : Condition} {row row' : Row}
    (agree : ∀ field ∈ condition.columns, (row field).Alike (row' field)) :
    condition.accepts row = condition.accepts row' := by
  induction condition with
  | always => rfl
  | all members ih =>
    simp only [columns_all, List.mem_flatMap] at agree
    rw [accepts_all, accepts_all, Bool.eq_iff_iff, List.all_eq_true, List.all_eq_true]
    refine forall₂_congr fun member belongs => ?_
    rw [ih member belongs fun field inside => agree field ⟨member, belongs, inside⟩]
  | any members ih =>
    simp only [columns_any, List.mem_flatMap] at agree
    rw [accepts_any, accepts_any]
    congr 1
    rw [Bool.eq_iff_iff, List.any_eq_true, List.any_eq_true]
    refine exists_congr fun member => and_congr_right fun belongs => ?_
    rw [ih member belongs fun field inside => agree field ⟨member, belongs, inside⟩]
  | not condition ih => rw [accepts_not, accepts_not, ih agree]
  | contains field needle => exact (agree field (by simp [columns_contains])).contains_eq needle
  | compare comparison field value =>
    rw [accepts, accepts]
    by_cases missing : value = .missing
    · rw [missing, holds_value_missing, holds_value_missing]
    · rw [columns_compare_of_ne missing] at agree
      exact (agree field (by simp)).holds_held_eq comparison value

end Condition

namespace Sql

/-! ### What a text names -/

def Token.field? : Token → Option Field
  | word content => Field.ofColumn? (String.ofList content)
  | _ => none

/-- The fields whose columns stand in a text as words, from left to right. -/
def namedColumns (text : String) : List Field :=
  ((tokens? text).getD []).filterMap Token.field?

theorem field?_column (field : Field) : (Clause.columnToken field).field? = some field := by
  cases field <;> decide

theorem field?_placeholder (n : Nat) : (Clause.placeholderToken n).field? = none := by
  rw [Clause.placeholderToken, Token.field?, String.ofList_toList, Field.ofColumn?,
    List.find?_eq_none]
  intro field _ same
  have dollar : '$' ∈ field.column.toList := by
    rw [beq_iff_eq.1 same, Clause.placeholderText_toList]
    exact List.mem_cons_self
  exact not_mem_column field dollar

theorem filterMap_intercalate {keyword : String} (h : (Token.keyword keyword).field? = none)
    (parts : List (List Token)) :
    ([Token.keyword keyword].intercalate parts).filterMap Token.field? =
      parts.flatMap (List.filterMap Token.field?) := by
  induction parts with
  | nil => rfl
  | cons part parts ih =>
    cases parts with
    | nil => simp
    | cons next parts =>
      rw [List.intercalate_cons_cons, List.filterMap_append, List.filterMap_append, ih]
      simp [h]

/-- The fields whose columns a clause names, from left to right. -/
def Clause.columns (clause : Clause) : List Field := clause.tokens.filterMap Token.field?

theorem columns_constant (holds : Bool) : (Clause.constant holds).columns = [] := by
  cases holds <;> decide

theorem columns_like (field : Field) (n : Nat) : (Clause.like field n).columns = [field] := by
  have split : (Clause.like field n).tokens =
      [.keyword "COALESCE", .opening, .keyword "LOWER", .opening] ++ Clause.columnToken field ::
        ([.closing, .comma, .literal [], .closing, .keyword "LIKE"] ++
          Clause.placeholderToken n :: [.keyword "ESCAPE", .literal ['\\']]) := rfl
  rw [Clause.columns, split, List.filterMap_append, List.filterMap_cons_some (field?_column field),
    List.filterMap_append, List.filterMap_cons_none (field?_placeholder n)]
  rfl

theorem columns_compare (comparison : Comparison) (field : Field) (n : Nat) :
    (Clause.compare comparison field n).columns = [field] := by
  have sign : (Token.operator comparison).field? = none := rfl
  rw [Clause.columns, Clause.tokens, List.filterMap_cons_some (field?_column field),
    List.filterMap_cons_none sign, List.filterMap_cons_none (field?_placeholder n)]
  rfl

theorem columns_parentheses (tokens : List Token) :
    (Token.opening :: (tokens ++ [.closing])).filterMap Token.field? =
      tokens.filterMap Token.field? := by
  have opening : Token.opening.field? = none := rfl
  rw [List.filterMap_cons_none opening, List.filterMap_append]
  exact List.append_nil _

theorem columns_not (clause : Clause) : (Clause.not clause).columns = clause.columns := by
  have keyword : (Token.keyword "NOT").field? = none := by decide
  rw [Clause.columns, Clause.tokens, List.filterMap_cons_none keyword]
  split
  · rfl
  · exact columns_parentheses clause.tokens

/-- The columns of a group are those of its members, one after the other. -/
theorem columns_ofMembers {group : Clause → List Clause → Clause} {keyword : String}
    (silent : (Token.keyword keyword).field? = none)
    (tokens : ∀ first others, (group first others).tokens = .opening ::
      ([.keyword keyword].intercalate ((first :: others).map Clause.tokens) ++ [.closing]))
    (members : List Clause) :
    (Clause.ofMembers group members).columns = members.flatMap Clause.columns := by
  cases members with
  | nil => exact columns_constant true
  | cons first others =>
    rw [Clause.columns, Clause.ofMembers, tokens, columns_parentheses,
      filterMap_intercalate silent, List.flatMap_map]
    rfl

theorem columns_ofMembers_all (members : List Clause) :
    (Clause.ofMembers .all members).columns = members.flatMap Clause.columns := by
  have silent : (Token.keyword "AND").field? = none := by decide
  refine columns_ofMembers silent (fun first others => ?_) members
  rw [Clause.tokens, Clause.tokensOfEach_eq, List.map_cons]

theorem columns_ofMembers_any (members : List Clause) :
    (Clause.ofMembers .any members).columns = members.flatMap Clause.columns := by
  have silent : (Token.keyword "OR").field? = none := by decide
  refine columns_ofMembers silent (fun first others => ?_) members
  rw [Clause.tokens, Clause.tokensOfEach_eq, List.map_cons]

/-- Numbering the placeholders does not touch the columns. -/
theorem columns_clauseOfEach {members : List Condition}
    (h : ∀ member ∈ members, ∀ offset, (clause offset member).columns = member.columns)
    (offset : Nat) :
    (clauseOfEach offset members).flatMap Clause.columns =
      members.flatMap Condition.columns := by
  induction members generalizing offset with
  | nil => rfl
  | cons member others ih =>
    rw [List.forall_mem_cons] at h
    rw [clauseOfEach, List.flatMap_cons, List.flatMap_cons, h.1, ih h.2]

/-- A clause names the columns that its condition looks at. -/
theorem columns_clause (offset : Nat) (condition : Condition) :
    (clause offset condition).columns = condition.columns := by
  induction condition generalizing offset with
  | always => exact columns_constant true
  | all members ih =>
    rw [clause_all, columns_ofMembers_all, columns_clauseOfEach ih, Condition.columns_all]
  | any members ih =>
    rw [clause_any, columns_ofMembers_any, columns_clauseOfEach ih, Condition.columns_any]
  | not condition ih => exact (columns_not _).trans (ih offset)
  | contains field needle => exact columns_like field (offset + 1)
  | compare comparison field value =>
    cases bound : Bind.ofValue? value with
    | some bind =>
      obtain ⟨rfl, known⟩ := value_of_ofValue? bound
      rw [clause, bound, Condition.columns_compare_of_ne known]
      exact columns_compare comparison field (offset + 1)
    | none =>
      obtain rfl := Bind.ofValue?_eq_none_iff.1 bound
      exact columns_constant false

/-- The text of a fragment names the columns that its condition looks at, in the same order. -/
theorem namedColumns_ofCondition (offset : Nat) (condition : Condition) :
    namedColumns (Fragment.ofCondition offset condition).text = condition.columns := by
  rw [Fragment.ofCondition_eq, namedColumns, (clause offset condition).scans_text.tokens?_eq,
    Option.getD_some, ← columns_clause offset condition]
  rfl

end Sql

end EstateSearch
