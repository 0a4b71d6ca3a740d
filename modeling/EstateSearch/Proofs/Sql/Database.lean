import EstateSearch.Condition.Accepts
import EstateSearch.Proofs.Sql.Like
import EstateSearch.Proofs.Sql.Reading
import EstateSearch.Proofs.Sql.Truth

/-!
# Evaluating fragments

What a database makes of a fragment for one row. The connectives, `COALESCE` and the placeholders
mean what SQL says. Comparisons, `LOWER` and `LIKE` belong to the database: they are given, and
`Database.IsStandard` lists what is expected of them. A missing field is a null.
-/

set_option autoImplicit false

namespace EstateSearch.Sql

/-- The operations that a database brings along. -/
structure Database where
  compare : Comparison → Value → Value → Truth
  lower : Value → Value
  /-- a text, a pattern and the text with the escape character -/
  like : Value → Value → Value → Truth

namespace Database

/-- A database that compares as conditions do, knows the same lowercase and matches patterns in the
standard way. Nothing is known of a comparison with a null. -/
structure IsStandard (db : Database) : Prop where
  compare_values : ∀ comparison held value, held ≠ .missing → value ≠ .missing →
    db.compare comparison held value = some (comparison.holds held value)
  compare_null : ∀ comparison value, db.compare comparison .missing value = none
  lower_text : ∀ content, db.lower (.text content) = .text (Text.lower content)
  lower_null : db.lower .missing = .missing
  like_text : ∀ content pattern, db.like (.text content) (.text pattern) (.text "\\") =
    some (likes pattern.toList content.toList)

/-- A standard database that accepts `LOWER` and `LIKE` for columns of any type, and finds no
pattern in what is not a text. -/
structure IsLenient (db : Database) : Prop extends IsStandard db where
  lower_other : ∀ held, (∀ content, held ≠ .text content) → db.lower held = held
  like_other : ∀ held pattern escape, held ≠ .missing → (∀ content, held ≠ .text content) →
    db.like held pattern escape = some false

/-- The database that evaluates the operations as conditions do. -/
def reference : Database where
  compare comparison held value :=
    if held = .missing ∨ value = .missing then none else some (comparison.holds held value)
  lower
    | .text content => .text (Text.lower content)
    | other => other
  like
    | .missing, _, _ => none
    | .text content, .text pattern, _ => some (likes pattern.toList content.toList)
    | _, _, _ => some false

/-- What is assumed of databases can be met. -/
theorem reference_isLenient : reference.IsLenient where
  compare_values comparison held value known known' := by simp [reference, known, known']
  compare_null comparison value := by simp [reference]
  lower_text content := rfl
  lower_null := rfl
  like_text content pattern := rfl
  lower_other held other := by
    cases held with
    | text content => exact absurd rfl (other content)
    | _ => rfl
  like_other held pattern escape known other := by
    cases held with
    | text content => exact absurd rfl (other content)
    | missing => exact absurd rfl known
    | _ => rfl

end Database

def Bind.value : Bind → Value
  | text content => .text content
  | integer content => .integer content
  | number content => .number content
  | boolean content => .boolean content
  | instant content => .instant content

/-- The value of a placeholder. Placeholders are numbered from one on. -/
def parameter (binds : List Bind) : Nat → Value
  | 0 => .missing
  | n + 1 => (binds[n]?.map Bind.value).getD .missing

variable (db : Database) (row : Row) (parameters : Nat → Value)

def Operand.value : Operand → Value
  | column field => row field
  | placeholder n => parameters n
  | number n => .integer (Int64.ofNat n)
  | text content => .text (String.ofList content)
  | lower operand => db.lower operand.value
  | coalesce first second => if first.value = .missing then second.value else first.value

namespace Formula

mutual

/-- The truth of a Boolean expression for a row. -/
def truth : Formula → Truth
  | compare comparison left right =>
    db.compare comparison (left.value db row parameters) (right.value db row parameters)
  | like text pattern escape =>
    db.like (text.value db row parameters) (pattern.value db row parameters)
      (escape.value db row parameters)
  | not formula => .not (truth formula)
  | all members => .all (truthOfEach members)
  | any members => .any (truthOfEach members)

def truthOfEach : List Formula → List Truth
  | [] => []
  | member :: others => truth member :: truthOfEach others

end

theorem truthOfEach_eq (members : List Formula) :
    truthOfEach db row parameters members = members.map (truth db row parameters) := by
  induction members with
  | nil => rfl
  | cons member others ih => rw [truthOfEach, ih, List.map_cons]

theorem truth_grouped_all (members : List Formula) :
    (grouped .all members).truth db row parameters =
      .all (members.map (truth db row parameters)) := by
  unfold grouped
  split
  · exact Truth.all_singleton.symm
  · rw [truth, truthOfEach_eq]

theorem truth_grouped_any (members : List Formula) :
    (grouped .any members).truth db row parameters =
      .any (members.map (truth db row parameters)) := by
  unfold grouped
  split
  · exact Truth.any_singleton.symm
  · rw [truth, truthOfEach_eq]

end Formula

/-- A fragment that comes after `earlier` binds has this truth for a row. -/
def Fragment.Evaluates (earlier : List Bind) (fragment : Fragment) (truth : Truth) : Prop :=
  ∃ formula, ReadsText fragment.text formula ∧
    formula.truth db row (parameter (earlier ++ fragment.binds)) = truth

/-- A fragment has one truth value at most, as its text is read in one way at most. -/
theorem Fragment.Evaluates.unique {earlier : List Bind} {fragment : Fragment}
    {truth truth' : Truth} (h : fragment.Evaluates db row earlier truth)
    (h' : fragment.Evaluates db row earlier truth') : truth = truth' := by
  obtain ⟨formula, reads, rfl⟩ := h
  obtain ⟨formula', reads', rfl⟩ := h'
  rw [reads.unique reads']

end EstateSearch.Sql
