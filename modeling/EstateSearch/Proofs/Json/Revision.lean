import EstateSearch.Json.Fields
import Mathlib.Data.List.Perm.Basic

/-!
# Members that make no difference to a record

The members of an object may be revised in ways that a record does not see (`Revises`): they may be
put into another order, members whose keys are no field may come and go, and so may a null for a
field that is not given.

A record sees of the members only what each of its fields is given (`slots?`). One revision does
not change that, so no sequence of revisions does (`slots?_eq_of_revises`), and what is read from
the fields stays the same (`bind_fields?_congr`).
-/

set_option autoImplicit false

namespace EstateSearch.Json

/-- The members are revised in a way that a record with these field names does not see. Members are
inserted in front, but may then be moved. -/
inductive Revises (names : List String) :
    List (Option String × Json) → List (Option String × Json) → Prop
  | permute {members members' : List (Option String × Json)} (moved : members.Perm members') :
    Revises names members members'
  | insertUnknown {key : String} (unknown : key ∉ names) (value : Json)
    (members : List (Option String × Json)) : Revises names members ((some key, value) :: members)
  | insertNull {name : String} {members : List (Option String × Json)} (known : name ∈ names)
    (absent : ∀ member ∈ members, member.1 ≠ some name) :
    Revises names members ((some name, null) :: members)
  | undo {members members' : List (Option String × Json)}
    (revised : Revises names members' members) : Revises names members members'
  | andThen {members members' members'' : List (Option String × Json)}
    (first : Revises names members members') (second : Revises names members' members'') :
    Revises names members members''

/-! ### What a field is given -/

def unlessNull : Json → Option Json
  | null => none
  | value => some value

/-- The value that a field is given, unless it is given none or null. There is no answer if the
field is given more than once. -/
def Fields.slot? (fields : Fields) (name : String) : Option (Option Json) :=
  match fields.filter fun field => field.1 == name with
  | [] => some none
  | [field] => some (unlessNull field.2)
  | _ => none

/-- What each of the fields is given by the members, if every key stands for a text. -/
def slots? (names : List String) (members : List (Option String × Json)) :
    Option (List (Option (Option Json))) :=
  (namedMembers? members).map fun fields => names.map fields.slot?

theorem namedMembers?_cons (member : Option String × Json) (members : List (Option String × Json)) :
    namedMembers? (member :: members) =
      member.1.bind fun key => (namedMembers? members).map ((key, member.2) :: ·) := by
  rw [namedMembers?, List.mapM_cons]
  cases member.1 with
  | none => rfl
  | some key =>
    simp only [Option.map_some, Option.bind_eq_bind, Option.bind_some, namedMembers?]
    cases members.mapM fun member => member.1.map fun key => (key, member.2) <;> rfl

/-- The members are named all together or not at all. -/
theorem namedMembers?_eq (members : List (Option String × Json)) :
    namedMembers? members =
      if members.all (·.1.isSome) then
        some (members.filterMap fun member => member.1.map fun key => (key, member.2))
      else none := by
  induction members with
  | nil => rfl
  | cons member members ih =>
    obtain ⟨key, value⟩ := member
    rw [namedMembers?_cons, ih]
    cases key with
    | none => rfl
    | some key =>
      by_cases named : members.all (·.1.isSome) = true <;> simp [named]

theorem ne_of_namedMembers? {members : List (Option String × Json)} {fields : Fields}
    (named : namedMembers? members = some fields) {name : String}
    (absent : ∀ member ∈ members, member.1 ≠ some name) :
    ∀ field ∈ fields, field.1 ≠ name := by
  rw [namedMembers?_eq] at named
  split at named
  · obtain rfl := Option.some.inj named
    rintro field belongs rfl
    obtain ⟨member, given, isField⟩ := List.mem_filterMap.1 belongs
    obtain ⟨key, isKey, rfl⟩ := Option.map_eq_some_iff.1 isField
    exact absent member given isKey
  · cases named

/-! ### Revisions -/

/-- The place of a field among the members does not matter. -/
theorem slot?_of_perm {fields fields' : Fields} (moved : fields.Perm fields') (name : String) :
    fields.slot? name = fields'.slot? name := by
  have same := moved.filter fun field => field.1 == name
  rw [Fields.slot?, Fields.slot?]
  generalize fields.filter (fun field => field.1 == name) = given at same
  generalize fields'.filter (fun field => field.1 == name) = given' at same
  match given, given' with
  | [], _ => rw [same.nil_eq]
  | [field], _ => rw [same.singleton_eq]
  | _ :: _ :: _, [] => exact absurd same.eq_nil (by simp)
  | _ :: _ :: _, [field] => exact absurd same.eq_singleton (by simp)
  | _ :: _ :: _, _ :: _ :: _ => rfl

theorem slot?_cons_of_ne {key name : String} (other : key ≠ name) (value : Json)
    (fields : Fields) : Fields.slot? ((key, value) :: fields) name = fields.slot? name := by
  rw [Fields.slot?, List.filter_cons_of_neg (by simpa using other), ← Fields.slot?]

/-- Null is as good as nothing. -/
theorem slot?_cons_null {name : String} {fields : Fields}
    (absent : ∀ field ∈ fields, field.1 ≠ name) :
    Fields.slot? ((name, null) :: fields) name = fields.slot? name := by
  have none : fields.filter (fun field => field.1 == name) = [] :=
    List.filter_eq_nil_iff.2 fun field belongs => by simpa using absent field belongs
  rw [Fields.slot?, List.filter_cons_of_pos (by simp), Fields.slot?, none]
  rfl

theorem slots?_cons (names : List String) (key : String) (value : Json)
    (members : List (Option String × Json)) :
    slots? names ((some key, value) :: members) = (namedMembers? members).map fun fields =>
      names.map (Fields.slot? ((key, value) :: fields)) := by
  rw [slots?, namedMembers?_cons, Option.bind_some, Option.map_map]
  rfl

/-- What the fields are given is not changed by revisions. -/
theorem slots?_eq_of_revises {names : List String} {members members' : List (Option String × Json)}
    (revised : Revises names members members') : slots? names members = slots? names members' := by
  induction revised with
  | @permute members members' moved =>
    rw [slots?, slots?, namedMembers?_eq, namedMembers?_eq, moved.all_eq]
    split
    · exact congrArg some (List.map_congr_left fun name _ => slot?_of_perm (moved.filterMap _) name)
    · rfl
  | @insertUnknown key unknown value members =>
    rw [slots?_cons, slots?]
    refine Option.map_congr fun fields _ => List.map_congr_left fun name belongs => ?_
    have other : key ≠ name := fun same => unknown (same ▸ belongs)
    exact (slot?_cons_of_ne other value fields).symm
  | @insertNull name members known absent =>
    rw [slots?_cons, slots?]
    refine Option.map_congr fun fields named => List.map_congr_left fun name' _ => ?_
    -- The new member is null and the only one with its key, so its field has the answer of one not
    -- given.
    by_cases same : name = name'
    · subst same
      exact (slot?_cons_null (ne_of_namedMembers? named absent)).symm
    · exact (slot?_cons_of_ne same null fields).symm
  | undo _ ih => exact ih.symm
  | andThen _ _ first second => exact first.trans second

/-! ### Reading the fields -/

/-- Names are used once just if every field has an answer, which may be that it is not given. -/
theorem usesOnce_iff {names : List String} {fields : Fields} :
    usesOnce names fields = true ↔ ∀ name ∈ names, (fields.slot? name).isSome = true := by
  rw [usesOnce, List.all_eq_true]
  refine forall₂_congr fun name _ => ?_
  rw [decide_eq_true_iff, Fields.slot?]
  generalize fields.filter (fun field => field.1 == name) = given
  match given with
  | [] | [_] | _ :: _ :: _ => simp

/-- A field that may be unset is read from what it is given. -/
theorem optional?_of_slot? {α : Type} {fields : Fields} {name : String} {given : Option Json}
    (slot : fields.slot? name = some given) (read : Json → Option α) :
    fields.optional? name read = given.elim (some none) fun value => (read value).map some := by
  rw [Fields.optional?, Fields.get?, ← List.head?_filter]
  rw [Fields.slot?] at slot
  split at slot
  · rename_i empty
    obtain rfl := Option.some.inj slot
    rw [empty]
    rfl
  · rename_i field single
    obtain rfl := Option.some.inj slot
    obtain ⟨key, value⟩ := field
    rw [single]
    cases value <;> rfl
  · cases slot

/-- What is read from the fields by name is the same if they are given the same. -/
theorem bind_fields?_congr {β : Type} {names : List String}
    {members members' : List (Option String × Json)}
    (same : slots? names members = slots? names members') {read : Fields → Option β}
    (byName : ∀ {fields fields' : Fields},
      (∀ name ∈ names, ∀ {α : Type} (read : Json → Option α),
        fields.optional? name read = fields'.optional? name read) → read fields = read fields') :
    (fields? names (object members)).bind read = (fields? names (object members')).bind read := by
  rw [slots?, slots?] at same
  rw [fields?, fields?]
  cases named : namedMembers? members with
  | none =>
    rw [named, Option.map_none, eq_comm, Option.map_eq_none_iff] at same
    rw [same]
  | some fields =>
    rw [named, Option.map_some, eq_comm, Option.map_eq_some_iff] at same
    obtain ⟨fields', named', slots⟩ := same
    have slots : ∀ name ∈ names, fields'.slot? name = fields.slot? name :=
      List.map_inj_left.1 slots
    -- Whether a name is used twice shows in the answers for the fields too.
    have once : usesOnce names fields' = usesOnce names fields := by
      rw [Bool.eq_iff_iff, usesOnce_iff, usesOnce_iff]
      exact forall₂_congr fun name belongs => by rw [slots name belongs]
    rw [named']
    simp only [Option.bind_eq_bind, Option.bind_some, once]
    split
    · rename_i used
      refine byName fun name belongs α read => ?_
      obtain ⟨given, slot⟩ := Option.isSome_iff_exists.1 (usesOnce_iff.1 used name belongs)
      rw [optional?_of_slot? slot, optional?_of_slot? ((slots name belongs).trans slot)]
    · rfl

end EstateSearch.Json
