import EstateSearch.Proofs.Condition.Groups
import EstateSearch.Sql.Fragment

/-!
# The clause behind a fragment

Writing a condition numbers placeholders, collects binds and puts the text together, all in one
pass. This module takes the pass apart: `clause` is the Boolean expression with its placeholders
already numbered, `binds` are the values in the order of the leaves, and what is written is the text
of the clause with those binds (`write_eq`, `Fragment.ofCondition_eq`).
-/

set_option autoImplicit false

namespace EstateSearch.Sql

/-- A Boolean expression over the columns of one table and numbered placeholders. Groups are never
empty. -/
inductive Clause where
  /-- a condition that is the same for every row -/
  | constant (holds : Bool)
  /-- the lowercase of a column, empty for a null, against a pattern -/
  | like (field : Field) (placeholder : Nat)
  /-- a column against a value -/
  | compare (comparison : Comparison) (field : Field) (placeholder : Nat)
  | not (clause : Clause)
  | all (first : Clause) (others : List Clause)
  | any (first : Clause) (others : List Clause)
  deriving Repr

namespace Clause

def isGroup : Clause → Bool
  | all _ _ => true
  | any _ _ => true
  | _ => false

mutual

def text : Clause → String
  | constant true => "1=1"
  | constant false => "1=0"
  | like field n => likeText field n
  | compare comparison field n => compareText comparison field n
  | not clause => if clause.isGroup then "NOT " ++ text clause else "NOT (" ++ text clause ++ ")"
  | all first others => "(" ++ " AND ".intercalate (text first :: textOfEach others) ++ ")"
  | any first others => "(" ++ " OR ".intercalate (text first :: textOfEach others) ++ ")"

def textOfEach : List Clause → List String
  | [] => []
  | member :: others => text member :: textOfEach others

end

theorem textOfEach_eq (members : List Clause) : textOfEach members = members.map text := by
  induction members with
  | nil => rfl
  | cons member others ih => rw [textOfEach, ih, List.map_cons]

/-- Induction on clauses: what holds of all members of a group may be used for the group. -/
@[induction_eliminator]
theorem induct {motive : Clause → Prop}
    (constant : ∀ holds, motive (.constant holds))
    (like : ∀ field n, motive (.like field n))
    (compare : ∀ comparison field n, motive (.compare comparison field n))
    (not : ∀ clause, motive clause → motive (.not clause))
    (all : ∀ first others, (∀ member ∈ first :: others, motive member) →
      motive (.all first others))
    (any : ∀ first others, (∀ member ∈ first :: others, motive member) →
      motive (.any first others))
    (clause : Clause) : motive clause := by
  refine @Clause.rec motive (fun members => ∀ member ∈ members, motive member)
    constant like compare not ?_ ?_ ?_ ?_ clause
  · exact fun first others h hs => all first others (List.forall_mem_cons.2 ⟨h, hs⟩)
  · exact fun first others h hs => any first others (List.forall_mem_cons.2 ⟨h, hs⟩)
  · simp
  · exact fun first others h hs => List.forall_mem_cons.2 ⟨h, hs⟩

end Clause

mutual

/-- The binds of a condition, in the order of its leaves. -/
def binds : Condition → List Bind
  | .always => []
  | .all members => bindsOfEach members
  | .any members => bindsOfEach members
  | .not condition => binds condition
  | .contains _ needle => [Bind.containing needle]
  | .compare _ _ value => (Bind.ofValue? value).toList

def bindsOfEach : List Condition → List Bind
  | [] => []
  | member :: others => binds member ++ bindsOfEach others

end

mutual

/-- The clause of a condition whose first placeholder is numbered one after `offset`. -/
def clause (offset : Nat) : Condition → Clause
  | .always => .constant true
  | .all [] => .constant true
  | .any [] => .constant true
  | .all (first :: others) =>
    .all (clause offset first) (clauseOfEach (offset + (binds first).length) others)
  | .any (first :: others) =>
    .any (clause offset first) (clauseOfEach (offset + (binds first).length) others)
  | .not condition => .not (clause offset condition)
  | .contains field _ => .like field (offset + 1)
  | .compare comparison field value =>
    match Bind.ofValue? value with
    | some _ => .compare comparison field (offset + 1)
    | none => .constant false

def clauseOfEach (offset : Nat) : List Condition → List Clause
  | [] => []
  | member :: others =>
    clause offset member :: clauseOfEach (offset + (binds member).length) others

end

/-- A group of clauses; one without members holds of every row. -/
def Clause.ofMembers (group : Clause → List Clause → Clause) : List Clause → Clause
  | [] => .constant true
  | first :: others => group first others

theorem Clause.text_ofMembers_all {members : List Clause} (nonempty : members ≠ []) :
    (ofMembers .all members).text = "(" ++ " AND ".intercalate (members.map text) ++ ")" := by
  cases members with
  | nil => exact absurd rfl nonempty
  | cons first others => rw [ofMembers, text, textOfEach_eq, List.map_cons]

theorem Clause.text_ofMembers_any {members : List Clause} (nonempty : members ≠ []) :
    (ofMembers .any members).text = "(" ++ " OR ".intercalate (members.map text) ++ ")" := by
  cases members with
  | nil => exact absurd rfl nonempty
  | cons first others => rw [ofMembers, text, textOfEach_eq, List.map_cons]

theorem clause_all (offset : Nat) (members : List Condition) :
    clause offset (.all members) = .ofMembers .all (clauseOfEach offset members) := by
  cases members with
  | nil => rfl
  | cons first others => rfl

theorem clause_any (offset : Nat) (members : List Condition) :
    clause offset (.any members) = .ofMembers .any (clauseOfEach offset members) := by
  cases members with
  | nil => rfl
  | cons first others => rfl

theorem clauseOfEach_ne_nil {members : List Condition} (nonempty : members ≠ []) (offset : Nat) :
    clauseOfEach offset members ≠ [] := by
  cases members with
  | nil => exact absurd rfl nonempty
  | cons first others => simp [clauseOfEach]

theorem bindsOfEach_eq (members : List Condition) : bindsOfEach members = members.flatMap binds := by
  induction members with
  | nil => rfl
  | cons member others ih => rw [bindsOfEach, ih, List.flatMap_cons]

/-- Only a missing value takes no placeholder. -/
theorem Bind.ofValue?_eq_none_iff {value : Value} : ofValue? value = none ↔ value = .missing := by
  cases value <;> simp [ofValue?]

theorem isGroup_clause (offset : Nat) (condition : Condition) :
    (clause offset condition).isGroup = isGroup condition := by
  cases condition with
  | all members => cases members <;> simp [clause, Clause.isGroup, isGroup]
  | any members => cases members <;> simp [clause, Clause.isGroup, isGroup]
  | compare comparison field value => cases value <;> rfl
  | _ => rfl

def Slots.after (slots : Slots) (binds : List Bind) : Slots :=
  ⟨slots.latest + binds.length, slots.binds ++ binds⟩

theorem Slots.after_nil (slots : Slots) : slots.after [] = slots := by
  simp [after]

theorem Slots.after_after (slots : Slots) (first second : List Bind) :
    (slots.after first).after second = slots.after (first ++ second) := by
  simp [after, Nat.add_assoc]

/-- The writer hands its slots on from member to member, as numbered clauses do. -/
theorem writeEach_eq {members : List Condition}
    (h : ∀ member ∈ members, ∀ slots : Slots,
      write slots member = ((clause slots.latest member).text, slots.after (binds member)))
    (slots : Slots) :
    writeEach slots members =
      ((clauseOfEach slots.latest members).map Clause.text, slots.after (bindsOfEach members)) := by
  induction members generalizing slots with
  | nil => rw [writeEach, clauseOfEach, bindsOfEach, Slots.after_nil, List.map_nil]
  | cons member others ih =>
    rw [List.forall_mem_cons] at h
    simp only [writeEach, h.1, ih h.2, clauseOfEach, bindsOfEach, List.map_cons,
      Slots.after_after]
    rfl

/-- Writing a condition gives the text of its clause and hands out its binds. -/
theorem write_eq (slots : Slots) (condition : Condition) :
    write slots condition =
      ((clause slots.latest condition).text, slots.after (binds condition)) := by
  -- The slots are generalized because each member starts with those that the one before has left.
  induction condition generalizing slots with
  | always => rw [write, clause, Clause.text, binds, Slots.after_nil]
  | all members ih =>
    cases members with
    | nil => rw [write, clause, Clause.text, binds, bindsOfEach, Slots.after_nil]
    | cons first others =>
      simp only [write, writeEach_eq ih, clauseOfEach, clause, Clause.text, Clause.textOfEach_eq,
        List.map_cons, binds]
  | any members ih =>
    cases members with
    | nil => rw [write, clause, Clause.text, binds, bindsOfEach, Slots.after_nil]
    | cons first others =>
      simp only [write, writeEach_eq ih, clauseOfEach, clause, Clause.text, Clause.textOfEach_eq,
        List.map_cons, binds]
  | not condition ih =>
    simp only [write, ih, clause, Clause.text, isGroup_clause, binds]
  | contains field needle => rfl
  | compare comparison field value =>
    cases value with
    | missing => simp [write, clause, binds, Bind.ofValue?, Clause.text, Slots.after_nil]
    | _ => rfl

/-- The fragment of a condition is the text of its clause with its binds. -/
theorem Fragment.ofCondition_eq (offset : Nat) (condition : Condition) :
    Fragment.ofCondition offset condition = ⟨(clause offset condition).text, Sql.binds condition⟩ := by
  simp only [ofCondition, write_eq, Slots.after, List.nil_append]

end EstateSearch.Sql
