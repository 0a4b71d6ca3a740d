import EstateSearch.Proofs.Condition.Leaves
import EstateSearch.Proofs.Sql.Clause
import EstateSearch.Proofs.Sql.Reading
import Mathlib.Data.List.TakeWhile

/-!
# Placeholders and binds

The placeholders in the text of a fragment are numbered through from one after the offset on, without
a gap and each once, and there are as many as binds (`placeholders_ofCondition`). The binds are those
of the leaves from left to right (`binds_eq_leaves`). The fragment of a group is put together from
fragments of its members, each of which starts where the one before ended (`placeholders_aligned`).

Placeholders are looked for in the text itself: a dollar sign and the digits after it. So a number
must not run on into what follows, which is why texts are joined where no digit comes
(`placeholders_append`).
-/

set_option autoImplicit false

namespace EstateSearch.Sql

open Condition

/-! ### Placeholders of a text -/

/-- Each dollar sign in a text with the digits that follow it, from left to right. -/
def dollars : List Char → List (List Char)
  | [] => []
  | c :: rest => if c = '$' then ('$' :: rest.takeWhile Char.isDigit) :: dollars rest else dollars rest

/-- The placeholders in a text, from left to right. -/
def placeholders (text : String) : List String := (dollars text.toList).map String.ofList

example : placeholders "price >= $9 AND price <= $10" = ["$9", "$10"] := by decide

theorem dollars_append_of_not_mem {first : List Char} (h : '$' ∉ first) (rest : List Char) :
    dollars (first ++ rest) = dollars rest := by
  induction first with
  | nil => rfl
  | cons c first ih =>
    rw [List.mem_cons, not_or] at h
    rw [List.cons_append, dollars, if_neg (Ne.symm h.1), ih h.2]

theorem dollars_of_not_mem {text : List Char} (h : '$' ∉ text) : dollars text = [] := by
  have alone := dollars_append_of_not_mem h []
  rwa [List.append_nil] at alone

def EndsNumber (rest : List Char) : Prop := ∀ c ∈ rest.head?, c.isDigit = false

theorem takeWhile_isDigit_of_endsNumber {rest : List Char} (h : EndsNumber rest) :
    rest.takeWhile Char.isDigit = [] := by
  cases rest with
  | nil => rfl
  | cons c rest => exact List.takeWhile_cons_of_neg (by simp [h c rfl])

theorem takeWhile_isDigit_append {rest : List Char} (h : EndsNumber rest) (digits : List Char) :
    (digits ++ rest).takeWhile Char.isDigit = digits.takeWhile Char.isDigit := by
  rw [List.takeWhile_append, takeWhile_isDigit_of_endsNumber h]
  split
  · rename_i all
    rw [List.append_nil, (List.takeWhile_prefix Char.isDigit).eq_of_length all]
  · rfl

/-- Texts may be joined where no digit follows. -/
theorem dollars_append {rest : List Char} (h : EndsNumber rest) (first : List Char) :
    dollars (first ++ rest) = dollars first ++ dollars rest := by
  induction first with
  | nil => rfl
  | cons c first ih =>
    rw [List.cons_append, dollars, dollars, ih, takeWhile_isDigit_append h]
    split
    · rfl
    · rfl

/-- Does the stretch end the number before it and hold no placeholder of its own? -/
def isGap (gap : List Char) : Bool := gap.head?.any (fun c => !c.isDigit) && !gap.contains '$'

/-- Text without placeholders that ends a number keeps the placeholders around it apart. -/
theorem dollars_append_gap {gap : List Char} (h : isGap gap = true) (first rest : List Char) :
    dollars (first ++ (gap ++ rest)) = dollars first ++ dollars rest := by
  rw [isGap, Bool.and_eq_true] at h
  obtain ⟨ends, plain⟩ := h
  have noDollar : '$' ∉ gap := by simpa using plain
  cases gap with
  | nil => cases ends
  | cons c gap =>
    have endsNumber : EndsNumber (c :: gap ++ rest) := by simpa [EndsNumber] using ends
    rw [dollars_append endsNumber, dollars_append_of_not_mem noDollar]

/-! ### Placeholders of clauses -/

theorem isDigit_toChar (digit : Decimal.Digit) : digit.toChar.isDigit = true := by
  revert digit
  decide

theorem dollars_placeholderText (n : Nat) :
    dollars (placeholderText n).toList = [(placeholderText n).toList] := by
  have digits : ∀ c ∈ Decimal.spell (Decimal.digits n), c.isDigit = true := by
    simp [Decimal.spell, isDigit_toChar]
  have noDollar : '$' ∉ Decimal.spell (Decimal.digits n) := by
    intro belongs
    exact absurd (digits '$' belongs) (by decide)
  rw [Clause.placeholderText_toList, dollars, if_pos rfl, dollars_of_not_mem noDollar,
    List.takeWhile_eq_self_iff.2 digits]

theorem not_mem_column (field : Field) : '$' ∉ field.column.toList := by
  cases field <;> decide

theorem dollars_likeText (field : Field) (n : Nat) :
    dollars (likeText field n).toList = [(placeholderText n).toList] := by
  have before : '$' ∉ "COALESCE(LOWER(".toList ++ field.column.toList ++ "), '') LIKE ".toList := by
    simp [not_mem_column field]
  have after : isGap " ESCAPE '\\'".toList = true := by decide
  have whole := dollars_append_gap after (placeholderText n).toList []
  rw [List.append_nil, dollars_placeholderText] at whole
  rw [Clause.likeText_toList, List.append_assoc, dollars_append_of_not_mem before, whole]
  rfl

theorem dollars_compareText (comparison : Comparison) (field : Field) (n : Nat) :
    dollars (compareText comparison field n).toList = [(placeholderText n).toList] := by
  have sign : '$' ∉ comparison.sign.toList := by cases comparison <;> decide
  have before : '$' ∉ field.column.toList ++ " ".toList ++ comparison.sign.toList ++ " ".toList := by
    simp [not_mem_column field, sign]
  rw [compareText]
  simp only [String.toList_append]
  rw [dollars_append_of_not_mem before, dollars_placeholderText]

theorem dollars_intercalate {separator : List Char} (h : isGap separator = true)
    (texts : List (List Char)) : dollars (separator.intercalate texts) = texts.flatMap dollars := by
  induction texts with
  | nil => rfl
  | cons text texts ih =>
    cases texts with
    | nil => simp
    | cons next texts =>
      rw [List.intercalate_cons_cons, List.append_assoc, dollars_append_gap h, ih]
      rfl

theorem dollars_text_constant (holds : Bool) : dollars (Clause.constant holds).text.toList = [] := by
  cases holds with
  | false => exact dollars_of_not_mem (by decide)
  | true => exact dollars_of_not_mem (by decide)

/-- The placeholders of a group are those of its members, one after the other. -/
theorem dollars_text_ofMembers {group : Clause → List Clause → Clause} {keyword : String}
    (gap : isGap keyword.toList = true)
    (text : ∀ {members : List Clause}, members ≠ [] → (Clause.ofMembers group members).text =
      "(" ++ keyword.intercalate (members.map Clause.text) ++ ")")
    (members : List Clause) :
    dollars (Clause.ofMembers group members).text.toList =
      members.flatMap fun member => dollars member.text.toList := by
  by_cases empty : members = []
  · rw [empty]
    exact dollars_text_constant true
  · have opening : '$' ∉ "(".toList := by decide
    have closing : isGap ")".toList = true := by decide
    have inside := dollars_intercalate gap ((members.map Clause.text).map String.toList)
    have whole := dollars_append_gap closing
      (keyword.toList.intercalate ((members.map Clause.text).map String.toList)) []
    rw [List.append_nil, inside, List.flatMap_map, List.flatMap_map] at whole
    rw [text empty, String.toList_append, String.toList_append, String.toList_intercalate,
      List.append_assoc, dollars_append_of_not_mem opening, whole]
    exact List.append_nil _

theorem dollars_text_not (clause : Clause) :
    dollars (Clause.not clause).text.toList = dollars clause.text.toList := by
  have closing : isGap ")".toList = true := by decide
  rw [Clause.text]
  split
  · rw [String.toList_append, dollars_append_of_not_mem (by decide)]
  · have whole := dollars_append_gap closing clause.text.toList []
    rw [List.append_nil] at whole
    rw [String.toList_append, String.toList_append, List.append_assoc,
      dollars_append_of_not_mem (by decide), whole]
    exact List.append_nil _

/-! ### Placeholders of conditions -/

/-- The texts of a number of placeholders in a row. -/
def consecutive (offset count : Nat) : List (List Char) :=
  (List.range' (offset + 1) count).map fun n => (placeholderText n).toList

theorem consecutive_append (offset first second : Nat) :
    consecutive offset first ++ consecutive (offset + first) second =
      consecutive offset (first + second) := by
  have ranges : List.range' (offset + 1) first ++ List.range' (offset + 1 + first) second =
      List.range' (offset + 1) (first + second) := List.range'_append_1
  rw [Nat.add_right_comm] at ranges
  rw [consecutive, consecutive, consecutive, ← List.map_append, ranges]

/-- Members are numbered through, so their placeholders follow one another without a gap. -/
theorem dollars_clauseOfEach {members : List Condition}
    (h : ∀ member ∈ members, ∀ offset,
      dollars (clause offset member).text.toList = consecutive offset (binds member).length)
    (offset : Nat) :
    ((clauseOfEach offset members).flatMap fun member => dollars member.text.toList) =
      consecutive offset (bindsOfEach members).length := by
  induction members generalizing offset with
  | nil => rfl
  | cons member others ih =>
    rw [List.forall_mem_cons] at h
    rw [clauseOfEach, bindsOfEach, List.flatMap_cons, h.1, ih h.2, consecutive_append,
      List.length_append]

/-- The text of a condition has the placeholders in a row, as many as there are binds. -/
theorem dollars_clause (offset : Nat) (condition : Condition) :
    dollars (clause offset condition).text.toList =
      consecutive offset (binds condition).length := by
  induction condition generalizing offset with
  | always => exact dollars_text_constant true
  | all members ih =>
    rw [clause_all, dollars_text_ofMembers (by decide) Clause.text_ofMembers_all,
      dollars_clauseOfEach ih, binds]
  | any members ih =>
    rw [clause_any, dollars_text_ofMembers (by decide) Clause.text_ofMembers_any,
      dollars_clauseOfEach ih, binds]
  | not condition ih => rw [clause, dollars_text_not, ih, binds]
  | contains field needle => exact dollars_likeText field (offset + 1)
  | compare comparison field value =>
    rw [clause, binds]
    cases Bind.ofValue? value with
    | none => exact dollars_text_constant false
    | some bind => exact dollars_compareText comparison field (offset + 1)

/-- The placeholders are numbered on from the offset, one for every value. -/
theorem placeholders_ofCondition (offset : Nat) (condition : Condition) :
    placeholders (Fragment.ofCondition offset condition).text =
      (List.range' (offset + 1) (binds condition).length).map placeholderText := by
  rw [Fragment.ofCondition_eq, placeholders, dollars_clause, consecutive, List.map_map]
  exact List.map_congr_left fun n _ => String.ofList_toList

/-! ### Binds of leaves -/

/-- The bind that a leaf takes; a comparison with a missing value takes none. -/
def leafBind? : Condition → Option Bind
  | .contains _ needle => some (.containing needle)
  | .compare _ _ value => Bind.ofValue? value
  | _ => none

/-- The binds are those of the leaves, from left to right. -/
theorem binds_eq_leaves (condition : Condition) :
    binds condition = condition.leaves.filterMap leafBind? := by
  induction condition with
  | always => rfl
  | all members ih =>
    rw [binds, bindsOfEach_eq, leaves_all, List.filterMap_flatMap]
    exact List.flatMap_congr ih
  | any members ih =>
    rw [binds, bindsOfEach_eq, leaves_any, List.filterMap_flatMap]
    exact List.flatMap_congr ih
  | not condition ih => rw [binds, leaves, ih]
  | contains field needle => rfl
  | compare comparison field value =>
    cases value with
    | missing => rfl
    | _ => rfl

/-! ### Fragments of groups -/

/-- The fragments of several conditions, each of which starts where the one before ended. -/
def Fragment.ofEach (offset : Nat) : List Condition → List Fragment
  | [] => []
  | member :: others =>
    let fragment := ofCondition offset member
    fragment :: ofEach (offset + fragment.binds.length) others

/-- A group of fragments between parentheses, with a keyword between them. -/
def Fragment.joined (keyword : String) (members : List Fragment) : Fragment :=
  ⟨"(" ++ keyword.intercalate (members.map text) ++ ")", members.flatMap Fragment.binds⟩

theorem Fragment.map_text_ofEach (offset : Nat) (members : List Condition) :
    (ofEach offset members).map text = (clauseOfEach offset members).map Clause.text := by
  induction members generalizing offset with
  | nil => rfl
  | cons member others ih =>
    simp only [ofEach, clauseOfEach, List.map_cons, ofCondition_eq, ih]

theorem Fragment.flatMap_binds_ofEach (offset : Nat) (members : List Condition) :
    (ofEach offset members).flatMap Fragment.binds = bindsOfEach members := by
  induction members generalizing offset with
  | nil => rfl
  | cons member others ih =>
    simp only [ofEach, bindsOfEach, List.flatMap_cons, ofCondition_eq, ih]

/-- A group of all is the fragments of its members, joined. -/
theorem Fragment.ofCondition_all (offset : Nat) {members : List Condition}
    (nonempty : members ≠ []) :
    ofCondition offset (.all members) = joined " AND " (ofEach offset members) := by
  rw [joined, map_text_ofEach, flatMap_binds_ofEach, ofCondition_eq, clause_all,
    Clause.text_ofMembers_all (clauseOfEach_ne_nil nonempty offset), Sql.binds]

theorem Fragment.ofCondition_any (offset : Nat) {members : List Condition}
    (nonempty : members ≠ []) :
    ofCondition offset (.any members) = joined " OR " (ofEach offset members) := by
  rw [joined, map_text_ofEach, flatMap_binds_ofEach, ofCondition_eq, clause_any,
    Clause.text_ofMembers_any (clauseOfEach_ne_nil nonempty offset), Sql.binds]

example : Fragment.ofEach 1 [.equal .city (.text "paris"), .equal .city .missing,
    .equal .active (.boolean true)] =
    [⟨"city = $2", [.text "paris"]⟩, ⟨"1=0", []⟩, ⟨"active = $3", [.boolean true]⟩] := by
  decide +kernel

/-- The placeholders of a fragment are numbered through from one after the offset on and are as many
as its binds, which are those of the leaves in their order and depend on nothing else. A group that
is not empty is put together from the fragments of its members. -/
theorem placeholders_aligned (offset : Nat) (condition : Condition) :
    let fragment := Fragment.ofCondition offset condition
    placeholders fragment.text =
        (List.range' (offset + 1) fragment.binds.length).map placeholderText ∧
      fragment.binds = condition.leaves.filterMap leafBind? ∧
      ∀ members, members ≠ [] →
        Fragment.ofCondition offset (.all members) =
            .joined " AND " (Fragment.ofEach offset members) ∧
          Fragment.ofCondition offset (.any members) =
            .joined " OR " (Fragment.ofEach offset members) := by
  have sameBinds : (Fragment.ofCondition offset condition).binds = binds condition := by
    rw [Fragment.ofCondition_eq]
  refine ⟨?_, ?_, ?_⟩
  · rw [sameBinds]
    exact placeholders_ofCondition offset condition
  · rw [sameBinds]
    exact binds_eq_leaves condition
  · intro members nonempty
    exact ⟨Fragment.ofCondition_all offset nonempty, Fragment.ofCondition_any offset nonempty⟩

/-- A group with a leaf that takes no bind, after nine binds of a statement before it. -/
theorem placeholders_aligned_nine :
    let members := [.contains .title "vue", .compare .equal .city .missing,
      .compare .atLeast .bedrooms (.integer 3)]
    let fragment := Fragment.ofCondition 9 (.not (.any members))
    members ≠ [] ∧
      placeholders fragment.text =
        (List.range' 10 fragment.binds.length).map placeholderText ∧
      fragment.binds = (Condition.not (.any members)).leaves.filterMap leafBind? ∧
      Fragment.ofCondition 9 (.all members) = .joined " AND " (Fragment.ofEach 9 members) ∧
      Fragment.ofCondition 9 (.any members) = .joined " OR " (Fragment.ofEach 9 members) := by
  intro members fragment
  have nonempty : members ≠ [] := by simp [members]
  obtain ⟨numbers, ofLeaves, groups⟩ := placeholders_aligned 9 (.not (.any members))
  exact ⟨nonempty, numbers, ofLeaves, groups members nonempty⟩

end EstateSearch.Sql
