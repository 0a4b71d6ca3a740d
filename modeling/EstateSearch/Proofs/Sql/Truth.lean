/-!
# Three-valued logic

The truth of a Boolean SQL expression: true, false or, where a null leaves it open, unknown. The
connectives are those of Kleene: a group that asks for all is false as soon as one member is,
whatever the others are, and unknown if only unknown members stand against its truth.
-/

set_option autoImplicit false

namespace EstateSearch.Sql

/-- A truth value of SQL; `none` is the unknown one. -/
abbrev Truth := Option Bool

namespace Truth

/-- The opposite; what is unknown stays so. -/
def not (a : Truth) : Truth := a.map (!·)

def and : Truth → Truth → Truth
  | some false, _ => some false
  | some true, b => b
  | none, some false => some false
  | none, _ => none

def or : Truth → Truth → Truth
  | some true, _ => some true
  | some false, b => b
  | none, some true => some true
  | none, _ => none

def all (members : List Truth) : Truth := members.foldr and (some true)

def any (members : List Truth) : Truth := members.foldr or (some false)

theorem not_eq_some {a : Truth} {b : Bool} : not a = some b ↔ a = some (!b) := by
  cases a <;> cases b <;> simp [not]

theorem and_eq_true {a b : Truth} : and a b = some true ↔ a = some true ∧ b = some true := by
  cases a with
  | none => cases b with
    | none => simp [and]
    | some b => cases b <;> simp [and]
  | some a => cases a <;> simp [and]

theorem and_eq_false {a b : Truth} : and a b = some false ↔ a = some false ∨ b = some false := by
  cases a with
  | none => cases b with
    | none => simp [and]
    | some b => cases b <;> simp [and]
  | some a => cases a <;> simp [and]

theorem or_eq_true {a b : Truth} : or a b = some true ↔ a = some true ∨ b = some true := by
  cases a with
  | none => cases b with
    | none => simp [or]
    | some b => cases b <;> simp [or]
  | some a => cases a <;> simp [or]

theorem or_eq_false {a b : Truth} : or a b = some false ↔ a = some false ∧ b = some false := by
  cases a with
  | none => cases b with
    | none => simp [or]
    | some b => cases b <;> simp [or]
  | some a => cases a <;> simp [or]

theorem all_singleton {a : Truth} : all [a] = a := by
  cases a with
  | none => rfl
  | some a => cases a <;> rfl

theorem any_singleton {a : Truth} : any [a] = a := by
  cases a with
  | none => rfl
  | some a => cases a <;> rfl

/-- All are true just if each is; one unknown is enough for an unknown answer. -/
theorem all_eq_true {members : List Truth} :
    all members = some true ↔ ∀ member ∈ members, member = some true := by
  induction members with
  | nil => simp [all]
  | cons first others ih =>
    rw [all, List.foldr_cons, and_eq_true, ← all, ih, List.forall_mem_cons]

theorem all_eq_false {members : List Truth} :
    all members = some false ↔ some false ∈ members := by
  induction members with
  | nil => simp [all]
  | cons first others ih =>
    rw [all, List.foldr_cons, and_eq_false, ← all, ih, List.mem_cons, eq_comm]

theorem any_eq_true {members : List Truth} :
    any members = some true ↔ some true ∈ members := by
  induction members with
  | nil => simp [any]
  | cons first others ih =>
    rw [any, List.foldr_cons, or_eq_true, ← any, ih, List.mem_cons, eq_comm]

theorem any_eq_false {members : List Truth} :
    any members = some false ↔ ∀ member ∈ members, member = some false := by
  induction members with
  | nil => simp [any]
  | cons first others ih =>
    rw [any, List.foldr_cons, or_eq_false, ← any, ih, List.forall_mem_cons]

theorem all_map_some {α : Type} (verdict : α → Bool) (members : List α) :
    all (members.map fun member => some (verdict member)) = some (members.all verdict) := by
  induction members with
  | nil => rfl
  | cons first others ih =>
    rw [List.map_cons, all, List.foldr_cons, ← all, ih, List.all_cons]
    cases verdict first <;> rfl

theorem any_map_some {α : Type} (verdict : α → Bool) (members : List α) :
    any (members.map fun member => some (verdict member)) = some (members.any verdict) := by
  induction members with
  | nil => rfl
  | cons first others ih =>
    rw [List.map_cons, any, List.foldr_cons, ← any, ih, List.any_cons]
    cases verdict first <;> rfl

end Truth

end EstateSearch.Sql
