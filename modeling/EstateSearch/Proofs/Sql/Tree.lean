import EstateSearch.Proofs.Sql.Reading

/-!
# The one reading of a fragment

The text of a fragment reads as the tree of its condition and in no other way (`readsText_iff`).
Parentheses come from two places: groups bring their own, and `NOT` puts them around what is no
group. The reading shows that none is missing. A group in a group, a negation in a group, a negation
of a negation and a negation of an empty group all come back as they were.

The tree is given for the condition itself (`tree`), without the clause that is written on the way.
-/

set_option autoImplicit false

namespace EstateSearch.Sql

def Formula.constant (holds : Bool) : Formula :=
  .compare .equal (.number 1) (.number (if holds then 1 else 0))

mutual

/-- The tree of a condition as a formula, with placeholders numbered from `offset + 1` on. A group
of one member is its member, an empty one is `1=1`, and a comparison with a missing value `1=0`. -/
def tree (offset : Nat) : Condition → Formula
  | .always => .constant true
  | .all members =>
    if members.isEmpty then .constant true else .grouped .all (treeOfEach offset members)
  | .any members =>
    if members.isEmpty then .constant true else .grouped .any (treeOfEach offset members)
  | .not condition => .not (tree offset condition)
  | .contains field _ =>
    .like (.coalesce (.lower (.column field)) (.text [])) (.placeholder (offset + 1)) (.text ['\\'])
  | .compare comparison field value =>
    if value = .missing then .constant false
    else .compare comparison (.column field) (.placeholder (offset + 1))

def treeOfEach (offset : Nat) : List Condition → List Formula
  | [] => []
  | member :: others =>
    tree offset member :: treeOfEach (offset + (binds member).length) others

end

theorem formula_clauseOfEach {members : List Condition}
    (h : ∀ member ∈ members, ∀ offset, (clause offset member).formula = tree offset member)
    (offset : Nat) :
    (clauseOfEach offset members).map Clause.formula = treeOfEach offset members := by
  induction members generalizing offset with
  | nil => rfl
  | cons member others ih =>
    rw [List.forall_mem_cons] at h
    rw [clauseOfEach, treeOfEach, List.map_cons, h.1, ih h.2]

/-- The clause of a condition writes the tree of the condition. -/
theorem formula_clause (offset : Nat) (condition : Condition) :
    (clause offset condition).formula = tree offset condition := by
  induction condition generalizing offset with
  | always => rfl
  | all members ih =>
    have formulas := formula_clauseOfEach ih offset
    cases members with
    | nil => rfl
    | cons first others =>
      rw [tree, ← formulas, clause, Clause.formula, Clause.formulaOfEach_eq]
      rfl
  | any members ih =>
    have formulas := formula_clauseOfEach ih offset
    cases members with
    | nil => rfl
    | cons first others =>
      rw [tree, ← formulas, clause, Clause.formula, Clause.formulaOfEach_eq]
      rfl
  | not condition ih => rw [clause, Clause.formula, tree, ih]
  | contains field needle => rfl
  | compare comparison field value =>
    cases value <;> rfl

/-- A fragment reads as the tree of its condition, and as nothing else. -/
theorem readsText_iff (offset : Nat) (condition : Condition) (formula : Formula) :
    ReadsText (Fragment.ofCondition offset condition).text formula ↔
      formula = tree offset condition := by
  have reads : ReadsText (Fragment.ofCondition offset condition).text (tree offset condition) := by
    rw [Fragment.ofCondition_eq, ← formula_clause]
    exact Clause.readsText (clause offset condition)
  constructor
  · exact fun other => other.unique reads
  · rintro rfl
    exact reads

example : (Fragment.ofCondition 0 (.not (.any [.not (.all [])]))).text = "NOT (NOT (1=1))" := by
  decide
example : tree 0 (.not (.any [.not (.all [])])) = .not (.not (.constant true)) := rfl

end EstateSearch.Sql
