import EstateSearch.Criteria.Json
import EstateSearch.Proofs.Json.Reading
import EstateSearch.Proofs.Json.Revision
import EstateSearch.Search

/-!
# Criteria under revision

Criteria are read from the members of an object by name. Whatever order the members stand in, and
whatever else stands between them, the same criteria are read (`revisions_unseen`).
-/

set_option autoImplicit false

namespace EstateSearch

open Json

variable {text text' : String} {members members' : List (Option String × Json)}

/-- Every text of a value is read as that value. -/
theorem bind_ofString?_of_writes {α : Type} {value : Json} (written : Writes text.toList value)
    (read : Json → Option α) : (Json.ofString? text).bind read = read value := by
  rw [ofString?_eq_some_iff.2 written, Option.bind_some]

/-- What depends only on what the fields are given is the same for texts of the one and the other
object. -/
theorem bind_ofString?_of_revises {α : Type} {names : List String} {read : Json → Option α}
    (bySlots : ∀ {members members' : List (Option String × Json)},
      slots? names members = slots? names members' →
        read (.object members) = read (.object members'))
    (written : Writes text.toList (.object members))
    (written' : Writes text'.toList (.object members')) (revised : Revises names members members') :
    (Json.ofString? text').bind read = (Json.ofString? text).bind read := by
  rw [bind_ofString?_of_writes written, bind_ofString?_of_writes written',
    bySlots (slots?_eq_of_revises revised)]

/-- Criteria for properties hang only on what each field is given. -/
theorem PropertyCriteria.ofJson?_congr
    (same : slots? fieldNames members = slots? fieldNames members') :
    ofJson? (.object members) = ofJson? (.object members') :=
  bind_fields?_congr same fun byName => by simp (disch := decide) only [byName]

theorem UserCriteria.ofJson?_congr
    (same : slots? fieldNames members = slots? fieldNames members') :
    ofJson? (.object members) = ofJson? (.object members') :=
  bind_fields?_congr same fun byName => by simp (disch := decide) only [byName]

/-- A text of an object whose members are revised, in whatever way it is written, describes the
same criteria, and the search that they make is the same. Keys are texts: a literal with half of a
surrogate pair is no key. -/
theorem revisions_unseen (written : Writes text.toList (.object members))
    (written' : Writes text'.toList (.object members')) :
    (Revises PropertyCriteria.fieldNames members members' →
      ∀ criteria, PropertyCriteria.ofString? text = some criteria →
        ∃ criteria', PropertyCriteria.ofString? text' = some criteria' ∧ criteria' = criteria ∧
          ∀ termMatch query, Search.propertyCondition termMatch criteria' query =
            Search.propertyCondition termMatch criteria query) ∧
    (Revises UserCriteria.fieldNames members members' →
      ∀ criteria, UserCriteria.ofString? text = some criteria →
        ∃ criteria', UserCriteria.ofString? text' = some criteria' ∧ criteria' = criteria ∧
          ∀ termMatch query, Search.userCondition termMatch criteria' query =
            Search.userCondition termMatch criteria query) := by
  constructor
  · intro revised criteria accepted
    have same := bind_ofString?_of_revises PropertyCriteria.ofJson?_congr written written' revised
    exact ⟨criteria, same.trans accepted, rfl, fun _ _ => rfl⟩
  · intro revised criteria accepted
    have same := bind_ofString?_of_revises UserCriteria.ofJson?_congr written written' revised
    exact ⟨criteria, same.trans accepted, rfl, fun _ _ => rfl⟩

/-- Around the member that is read stand an array and a null that only criteria for users know, and
the text goes over several lines. -/
theorem revisions_unseen_surrounded :
    let members := [(some "active", Json.boolean false)]
    let members' := [(some "role", .null), (some "active", .boolean false),
      (some "extra", .array [.null, .object []])]
    let text := Json.compact (.object members)
    let text' := Json.pretty (.object members')
    Writes text.toList (.object members) ∧ Writes text'.toList (.object members') ∧
      Revises PropertyCriteria.fieldNames members members' ∧
      Revises UserCriteria.fieldNames members members' ∧
      PropertyCriteria.ofString? text' = some { PropertyCriteria.blank with active := some false } ∧
      UserCriteria.ofString? text' = some { UserCriteria.blank with active := some false } := by
  intro members members' text text'
  have writable : IsWritable (.object (Json.members [("active", .boolean false)])) :=
    .object (by simpa using .boolean false)
  have extra : IsWritable (.array [.null, .object (Json.members [])]) :=
    .array (by simpa using ⟨.null, .object (by simp)⟩)
  have writable' : IsWritable (.object (Json.members [("role", .null), ("active", .boolean false),
      ("extra", .array [.null, .object []])])) :=
    .object (by simpa using ⟨.null, .boolean false, extra⟩)
  have written : Writes text.toList (.object members) :=
    ofString?_eq_some_iff.1 (ofString?_print .compact writable)
  have written' : Writes text'.toList (.object members') :=
    ofString?_eq_some_iff.1 (ofString?_print .pretty writable')
  have moved (first second : Option String × Json) : [first, second].Perm [second, first] :=
    .swap second first []
  have property : Revises PropertyCriteria.fieldNames members members' :=
    .andThen (.insertUnknown (by decide) _ _)
      (.andThen (.permute (moved _ _)) (.insertUnknown (by decide) _ _))
  have user : Revises UserCriteria.fieldNames members members' :=
    .andThen (.insertUnknown (by decide) _ _)
      (.andThen (.permute (moved _ _)) (.insertNull (by decide) (by simp)))
  have unseen := revisions_unseen written written'
  obtain ⟨_, readProperty, rfl, -⟩ := unseen.1 property
    { PropertyCriteria.blank with active := some false } (bind_ofString?_of_writes written _)
  obtain ⟨_, readUser, rfl, -⟩ := unseen.2 user
    { UserCriteria.blank with active := some false } (bind_ofString?_of_writes written _)
  exact ⟨written, written', property, user, readProperty, readUser⟩

end EstateSearch
