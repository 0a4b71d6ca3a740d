import EstateSearch.Proofs.Condition.Groups

/-!
# Compositions of conditions

A composition is an expression over groups, negations and given conditions. It becomes a condition
node by node, and each node may be put together in either way: with `allOf`, `anyOf` and `negate`,
which simplify, or with the bare constructors (`build`). The choice does not show in a decision, nor
does the order of the members of a group, however deep it stands (`build_decides_alike`).
-/

set_option autoImplicit false

namespace EstateSearch

inductive Composition where
  /-- a condition, of whatever form -/
  | part (condition : Condition)
  | all (members : List Composition)
  | any (members : List Composition)
  | not (composition : Composition)

namespace Composition

/-- Induction on compositions: what holds of all members of a group may be used for the group. -/
@[induction_eliminator]
theorem induct {motive : Composition → Prop}
    (part : ∀ condition, motive (.part condition))
    (all : ∀ members, (∀ member ∈ members, motive member) → motive (.all members))
    (any : ∀ members, (∀ member ∈ members, motive member) → motive (.any members))
    (not : ∀ composition, motive composition → motive (.not composition))
    (composition : Composition) : motive composition := by
  refine @Composition.rec motive (fun members => ∀ member ∈ members, motive member)
    part all any not ?_ ?_ composition
  · simp
  · exact fun first others h hs => List.forall_mem_cons.2 ⟨h, hs⟩

/-- A place in a composition: the numbers of the members to go into, from the top on. A negation has
one member. -/
abbrev Place := List Nat

mutual

/-- The condition of a composition that is put together with `allOf`, `anyOf` and `negate` at the
chosen places and with the bare constructors at all others. -/
def build (simplified : Place → Bool) : Composition → Condition
  | part condition => condition
  | all members =>
    (if simplified [] then Condition.allOf else Condition.all) (buildEach simplified 0 members)
  | any members =>
    (if simplified [] then Condition.anyOf else Condition.any) (buildEach simplified 0 members)
  | not composition =>
    (if simplified [] then Condition.negate else Condition.not)
      (build (fun place => simplified (0 :: place)) composition)

/-- The conditions of the members of a group, the first of which has the given number. -/
def buildEach (simplified : Place → Bool) (number : Nat) : List Composition → List Condition
  | [] => []
  | member :: others =>
    build (fun place => simplified (number :: place)) member ::
      buildEach simplified (number + 1) others

end

mutual

/-- The decision of a composition: all members of the one kind of group, some member of the other
unless there is none, the opposite for a negation. -/
def holds (row : Row) : Composition → Bool
  | part condition => condition.accepts row
  | all members => holdsForAll row members
  | any members => members.isEmpty || holdsForAny row members
  | not composition => !holds row composition

def holdsForAll (row : Row) : List Composition → Bool
  | [] => true
  | member :: others => holds row member && holdsForAll row others

def holdsForAny (row : Row) : List Composition → Bool
  | [] => false
  | member :: others => holds row member || holdsForAny row others

end

/-- The same expression up to the order of the members in groups at any depth. A bare group or
negation among the given conditions counts as one of the expression. -/
inductive Reordered : Composition → Composition → Prop where
  | refl (composition : Composition) : Reordered composition composition
  | symm {a b : Composition} (h : Reordered a b) : Reordered b a
  | trans {a b c : Composition} (h : Reordered a b) (h' : Reordered b c) : Reordered a c
  | all {members others : List Composition} (order : members.Perm others) :
      Reordered (all members) (all others)
  | any {members others : List Composition} (order : members.Perm others) :
      Reordered (any members) (any others)
  | inAll (before after : List Composition) {a b : Composition} (h : Reordered a b) :
      Reordered (all (before ++ a :: after)) (all (before ++ b :: after))
  | inAny (before after : List Composition) {a b : Composition} (h : Reordered a b) :
      Reordered (any (before ++ a :: after)) (any (before ++ b :: after))
  | inNot {a b : Composition} (h : Reordered a b) : Reordered (not a) (not b)
  | partAll (members : List Condition) : Reordered (part (.all members)) (all (members.map part))
  | partAny (members : List Condition) : Reordered (part (.any members)) (any (members.map part))
  | partNot (condition : Condition) : Reordered (part (.not condition)) (not (part condition))

variable (row : Row)

@[simp]
theorem holds_all (members : List Composition) :
    holds row (all members) = members.all (holds row) := by
  rw [holds]
  induction members with
  | nil => rfl
  | cons member others ih => rw [holdsForAll, ih, List.all_cons]

@[simp]
theorem holds_any (members : List Composition) :
    holds row (any members) = (members.isEmpty || members.any (holds row)) := by
  rw [holds]
  congr 1
  induction members with
  | nil => rfl
  | cons member others ih => rw [holdsForAny, ih, List.any_cons]

/-- Wherever members are put together, they decide one by one as their compositions. -/
theorem map_accepts_buildEach {members : List Composition}
    (h : ∀ member ∈ members, ∀ simplified, (build simplified member).accepts row = holds row member)
    (simplified : Place → Bool) (number : Nat) :
    (buildEach simplified number members).map (Condition.accepts row) =
      members.map (holds row) := by
  induction members generalizing number with
  | nil => rfl
  | cons member others ih =>
    rw [List.forall_mem_cons] at h
    rw [buildEach, List.map_cons, List.map_cons, h.1, ih h.2]

/-- A condition that is put together decides as its composition, whichever nodes are simplified. -/
theorem accepts_build (simplified : Place → Bool) (composition : Composition) :
    (build simplified composition).accepts row = holds row composition := by
  -- At a node the simplifying function and the bare constructor make the same of the members'
  -- decisions, so the choice there is split off last.
  induction composition generalizing simplified with
  | part condition => rfl
  | all members ih =>
    have maps := map_accepts_buildEach row ih simplified 0
    have decisions : (buildEach simplified 0 members).all (Condition.accepts row) =
        members.all (holds row) := by
      simpa using congrArg (List.all · id) maps
    rw [holds_all, build, ← decisions]
    split
    · exact Condition.accepts_allOf row _
    · exact Condition.accepts_all row _
  | any members ih =>
    have maps := map_accepts_buildEach row ih simplified 0
    have decisions : (buildEach simplified 0 members).any (Condition.accepts row) =
        members.any (holds row) := by
      simpa using congrArg (List.any · id) maps
    have emptiness : (buildEach simplified 0 members).isEmpty = members.isEmpty := by
      simpa using congrArg List.isEmpty maps
    rw [holds_any, build, ← decisions, ← emptiness]
    split
    · exact Condition.accepts_anyOf row _
    · exact Condition.accepts_any row _
  | not composition ih =>
    rw [holds, build, ← ih]
    split
    · exact Condition.accepts_negate row _
    · exact Condition.accepts_not row _

/-- Reordering changes no decision. -/
theorem Reordered.holds_eq {a b : Composition} (h : Reordered a b) : holds row a = holds row b := by
  induction h with
  | refl composition => rfl
  | symm h ih => exact ih.symm
  | trans h h' ih ih' => exact ih.trans ih'
  | all order => rw [holds_all, holds_all, order.all_eq]
  | any order => rw [holds_any, holds_any, order.isEmpty_eq, order.any_eq]
  | inAll before after h ih => simp [ih]
  | inAny before after h ih =>
    have filled : ∀ c, (before ++ c :: after).isEmpty = false := by simp
    simp [filled, ih]
  | inNot h ih => rw [holds, holds, ih]
  | partAll members =>
    rw [holds_all, List.all_map]
    exact Condition.accepts_all row members
  | partAny members =>
    rw [holds_any, List.any_map, List.isEmpty_map]
    exact Condition.accepts_any row members
  | partNot condition => rfl

/-- Two conditions that are put together from the same expression accept the same rows, whichever
nodes are simplified in the one and in the other and however the members of groups are ordered; what
they accept is the decision of the expression. -/
theorem build_decides_alike {composition other : Composition}
    (reordered : Reordered composition other) (simplified simplified' : Place → Bool) :
    (build simplified composition).accepts row = holds row composition ∧
      (build simplified' other).accepts row = (build simplified composition).accepts row := by
  rw [accepts_build, accepts_build]
  exact ⟨rfl, (reordered.holds_eq row).symm⟩

/-- A bare group inside, the empty group, and all members in the other order. -/
theorem build_decides_alike_paris :
    let paris := Condition.equal .city (.text "paris")
    let composition := not (all [any [], part (.any [.always, paris])])
    let other := not (all [any [part paris, part .always], any []])
    Reordered composition other ∧
      (build (fun _ => true) composition).accepts Property.blank.row =
        holds Property.blank.row composition ∧
      (build List.isEmpty other).accepts Property.blank.row =
        (build (fun _ => true) composition).accepts Property.blank.row := by
  intro paris composition other
  have inner : Reordered (part (.any [.always, paris])) (any [part paris, part .always]) :=
    (Reordered.partAny [.always, paris]).trans (.any (.swap _ _ _))
  have reordered : Reordered composition other :=
    .inNot ((Reordered.inAll [any []] [] inner).trans (.all (.swap _ _ _)))
  exact ⟨reordered, build_decides_alike Property.blank.row reordered (fun _ => true) List.isEmpty⟩

end Composition

end EstateSearch
