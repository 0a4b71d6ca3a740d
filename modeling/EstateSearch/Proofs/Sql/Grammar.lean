import EstateSearch.Proofs.Sql.Token
import EstateSearch.Decimal.Digits
import Mathlib.Data.List.Basic

/-!
# The grammar of SQL conditions

What a list of tokens means as a condition, by the precedence of SQL: comparisons and `LIKE` bind
tighter than `NOT`, `NOT` tighter than `AND`, `AND` tighter than `OR`, and parentheses group. The
grammar is a relation `Reads` between tokens and formulas at a rank of precedence.

Main statement: no list of tokens has two readings (`Reads.unique`). It follows from a stronger one
about beginnings of a list (`Reads.unique_prefix`), as the end of a part is known only from the
token that comes next.
-/

set_option autoImplicit false

namespace EstateSearch.Sql

inductive Operand where
  | column (field : Field)
  | placeholder (n : Nat)
  | number (n : Nat)
  | text (content : List Char)
  | lower (operand : Operand)
  | coalesce (first second : Operand)
  deriving DecidableEq, Repr

/-- A Boolean expression. -/
inductive Formula where
  | compare (comparison : Comparison) (left right : Operand)
  | like (text pattern escape : Operand)
  | not (formula : Formula)
  | all (members : List Formula)
  | any (members : List Formula)
  deriving Repr

/-- The number that a word is, if it consists of digits. -/
def numberOf? (word : List Char) : Option Nat :=
  if word.isEmpty then none else (Decimal.allDigits? word).map Decimal.valueOf

/-- What a word stands for as a value: a placeholder, a number or a column. -/
def operandOfWord? : List Char → Option Operand
  | '$' :: digits => (numberOf? digits).map .placeholder
  | word =>
    match numberOf? word with
    | some n => some (.number n)
    | none => (Field.ofColumn? (String.ofList word)).map .column

/-- Tokens that write a value. -/
inductive ReadsOperand : List Token → Operand → Prop
  | word {word : List Char} {operand : Operand} (h : operandOfWord? word = some operand) :
      ReadsOperand [.word word] operand
  | literal (content : List Char) : ReadsOperand [.literal content] (.text content)
  | lower {tokens : List Token} {operand : Operand} (h : ReadsOperand tokens operand) :
      ReadsOperand (.keyword "LOWER" :: .opening :: (tokens ++ [.closing])) (.lower operand)
  | coalesce {tokens others : List Token} {first second : Operand}
      (h : ReadsOperand tokens first) (h' : ReadsOperand others second) :
      ReadsOperand (.keyword "COALESCE" :: .opening :: (tokens ++ .comma :: (others ++ [.closing])))
        (.coalesce first second)

/-- The ranks of precedence, from the tightest on. -/
inductive Rank where
  | predicate
  | negation
  | conjunction
  | disjunction
  deriving DecidableEq, Repr

/-- Tokens that write a formula at a rank. -/
inductive Reads : Rank → List Token → Formula → Prop
  | compare (comparison : Comparison) {left right : List Token} {a b : Operand}
      (ha : ReadsOperand left a) (hb : ReadsOperand right b) :
      Reads .predicate (left ++ .operator comparison :: right) (.compare comparison a b)
  | like {text pattern escape : List Token} {a b c : Operand} (ha : ReadsOperand text a)
      (hb : ReadsOperand pattern b) (hc : ReadsOperand escape c) :
      Reads .predicate (text ++ .keyword "LIKE" :: (pattern ++ .keyword "ESCAPE" :: escape))
        (.like a b c)
  | parentheses {tokens : List Token} {formula : Formula} (h : Reads .disjunction tokens formula) :
      Reads .predicate (.opening :: (tokens ++ [.closing])) formula
  | predicate {tokens : List Token} {formula : Formula} (h : Reads .predicate tokens formula) :
      Reads .negation tokens formula
  | not {tokens : List Token} {formula : Formula} (h : Reads .negation tokens formula) :
      Reads .negation (.keyword "NOT" :: tokens) (.not formula)
  | negation {tokens : List Token} {formula : Formula} (h : Reads .negation tokens formula) :
      Reads .conjunction tokens formula
  | all {parts : List (List Token × Formula)} (several : 2 ≤ parts.length)
      (h : ∀ part ∈ parts, Reads .negation part.1 part.2) :
      Reads .conjunction ([.keyword "AND"].intercalate (parts.map Prod.fst))
        (.all (parts.map Prod.snd))
  | conjunction {tokens : List Token} {formula : Formula} (h : Reads .conjunction tokens formula) :
      Reads .disjunction tokens formula
  | any {parts : List (List Token × Formula)} (several : 2 ≤ parts.length)
      (h : ∀ part ∈ parts, Reads .conjunction part.1 part.2) :
      Reads .disjunction ([.keyword "OR"].intercalate (parts.map Prod.fst))
        (.any (parts.map Prod.snd))

/-! ### Readings are unique -/

/-- A keyword that is no value of its own. -/
theorem operandOfWord?_keyword {name : String} (h : name ∈ ["LOWER", "COALESCE", "NOT"]) :
    operandOfWord? name.toList = none := by
  simp only [List.mem_cons, List.not_mem_nil, or_false] at h
  rcases h with rfl | rfl | rfl <;> decide

theorem ne_of_operandOfWord? {word : List Char} {operand : Operand}
    (h : operandOfWord? word = some operand) {name : String}
    (hname : name ∈ ["LOWER", "COALESCE", "NOT"]) : word ≠ name.toList := by
  rintro rfl
  rw [operandOfWord?_keyword hname] at h
  cases h

/-- A value at the beginning of a list of tokens ends at one place only and is one value only. -/
theorem ReadsOperand.unique_prefix {tokens others rest rest' : List Token} {a b : Operand}
    (h : ReadsOperand tokens a) (h' : ReadsOperand others b)
    (equal : tokens ++ rest = others ++ rest') : tokens = others ∧ a = b := by
  induction h generalizing others b rest rest' with
  -- The first token tells the forms apart, as no keyword is the word of an operand.
  | word known =>
    cases h' with
    | word known' =>
      simp only [List.cons_append, List.nil_append, List.cons.injEq, Token.word.injEq] at equal
      rw [equal.1, known', Option.some.injEq] at known
      exact ⟨by rw [equal.1], known.symm⟩
    | literal => simp at equal
    | lower =>
      simp only [Token.keyword, List.cons_append, List.nil_append, List.cons.injEq,
        Token.word.injEq] at equal
      exact absurd equal.1 (ne_of_operandOfWord? known (by simp))
    | coalesce =>
      simp only [Token.keyword, List.cons_append, List.nil_append, List.cons.injEq,
        Token.word.injEq] at equal
      exact absurd equal.1 (ne_of_operandOfWord? known (by simp))
  | literal content =>
    cases h' with
    | literal =>
      simp only [List.cons_append, List.nil_append, List.cons.injEq, Token.literal.injEq] at equal
      simp [equal.1]
    | _ => simp [Token.keyword] at equal
  | lower _ ih =>
    cases h' with
    | word known' =>
      simp only [Token.keyword, List.cons_append, List.nil_append, List.cons.injEq,
        Token.word.injEq] at equal
      exact absurd equal.1.symm (ne_of_operandOfWord? known' (by simp))
    | literal => simp [Token.keyword] at equal
    | lower h' =>
      simp only [List.cons_append, List.append_assoc, List.cons.injEq, true_and] at equal
      obtain ⟨rfl, rfl⟩ := ih h' equal
      exact ⟨rfl, rfl⟩
    | coalesce => simp [Token.keyword] at equal
  | coalesce _ _ ih ih' =>
    cases h' with
    | word known' =>
      simp only [Token.keyword, List.cons_append, List.nil_append, List.cons.injEq,
        Token.word.injEq] at equal
      exact absurd equal.1.symm (ne_of_operandOfWord? known' (by simp))
    | literal => simp [Token.keyword] at equal
    | lower => simp [Token.keyword] at equal
    | coalesce hfirst hsecond =>
      simp only [List.cons_append, List.append_assoc, List.cons.injEq, true_and] at equal
      obtain ⟨rfl, rfl⟩ := ih hfirst equal
      simp only [List.append_cancel_left_eq, List.cons.injEq, true_and] at equal
      obtain ⟨rfl, rfl⟩ := ih' hsecond equal
      exact ⟨rfl, rfl⟩

/-- A value starts neither with a parenthesis nor with `NOT`. -/
theorem ReadsOperand.head {tokens : List Token} {operand : Operand}
    (h : ReadsOperand tokens operand) :
    ∃ first others, tokens = first :: others ∧ first ≠ .opening ∧ first ≠ .keyword "NOT" := by
  cases h with
  | word known =>
    have noNot : _ ≠ "NOT".toList := ne_of_operandOfWord? known (by simp)
    exact ⟨_, _, rfl, by simp, by simpa [Token.keyword] using noNot⟩
  | literal content => exact ⟨_, _, rfl, by simp, by simp [Token.keyword]⟩
  | lower => exact ⟨_, _, rfl, by simp [Token.keyword], by simp [Token.keyword]⟩
  | coalesce => exact ⟨_, _, rfl, by simp [Token.keyword], by simp [Token.keyword]⟩

/-- A predicate does not start with `NOT`. -/
theorem Reads.head_predicate {tokens : List Token} {formula : Formula}
    (h : Reads .predicate tokens formula) :
    ∃ first others, tokens = first :: others ∧ first ≠ .keyword "NOT" := by
  cases h with
  | compare comparison ha hb =>
    obtain ⟨first, others, rfl, -, noNot⟩ := ha.head
    exact ⟨first, _, rfl, noNot⟩
  | like ha hb hc =>
    obtain ⟨first, others, rfl, -, noNot⟩ := ha.head
    exact ⟨first, _, rfl, noNot⟩
  | parentheses h => exact ⟨_, _, rfl, by simp [Token.keyword]⟩

/-- Does a formula at this rank end before these tokens? -/
def Rank.EndsBefore : Rank → List Token → Prop
  | .predicate, _ => True
  | .negation, _ => True
  | .conjunction, rest => rest.head? ≠ some (.keyword "AND")
  | .disjunction, rest => rest.head? ≠ some (.keyword "AND") ∧ rest.head? ≠ some (.keyword "OR")

/-- The formula of a group: a group of one is its member. -/
def Formula.grouped (group : List Formula → Formula) : List Formula → Formula
  | [formula] => formula
  | formulas => group formulas

theorem Formula.grouped_of_several (group : List Formula → Formula) {formulas : List Formula}
    (h : 2 ≤ formulas.length) : grouped group formulas = group formulas := by
  match formulas, h with
  | _ :: _ :: _, _ => rfl

/-- A conjunction is cut at its `AND`s, and a single part is no group. -/
theorem Reads.parts_of_conjunction {tokens : List Token} {formula : Formula}
    (h : Reads .conjunction tokens formula) :
    ∃ parts : List (List Token × Formula), parts ≠ [] ∧
      (∀ part ∈ parts, Reads .negation part.1 part.2) ∧
      tokens = [.keyword "AND"].intercalate (parts.map Prod.fst) ∧
      formula = .grouped .all (parts.map Prod.snd) := by
  cases h with
  | negation h => exact ⟨[(tokens, formula)], by simp, by simpa using h, by simp, rfl⟩
  | all several h =>
    refine ⟨_, List.ne_nil_of_length_pos (by omega), h, rfl, ?_⟩
    rw [Formula.grouped_of_several _ (by simpa using several)]

theorem Reads.parts_of_disjunction {tokens : List Token} {formula : Formula}
    (h : Reads .disjunction tokens formula) :
    ∃ parts : List (List Token × Formula), parts ≠ [] ∧
      (∀ part ∈ parts, Reads .conjunction part.1 part.2) ∧
      tokens = [.keyword "OR"].intercalate (parts.map Prod.fst) ∧
      formula = .grouped .any (parts.map Prod.snd) := by
  cases h with
  | conjunction h => exact ⟨[(tokens, formula)], by simp, by simpa using h, by simp, rfl⟩
  | any several h =>
    refine ⟨_, List.ne_nil_of_length_pos (by omega), h, rfl, ?_⟩
    rw [Formula.grouped_of_several _ (by simpa using several)]

/-- Does a reading at the beginning of a list of tokens rule out every other one of its rank? -/
def UniquePrefix (rank : Rank) (tokens : List Token) (formula : Formula) : Prop :=
  ∀ others rest rest' formula', Reads rank others formula' →
    rank.EndsBefore rest → rank.EndsBefore rest' → tokens ++ rest = others ++ rest' →
    tokens = others ∧ formula = formula'

/-- The members of a group are found one by one, as each of them ends before the joint. -/
theorem parts_unique {rank : Rank} {joint : Token} {rest rest' : List Token}
    (beforeJoint : ∀ tokens, rank.EndsBefore (joint :: tokens))
    (hrest : rank.EndsBefore rest ∧ rest.head? ≠ some joint)
    (hrest' : rank.EndsBefore rest' ∧ rest'.head? ≠ some joint)
    {parts parts' : List (List Token × Formula)} (nonempty : parts ≠ []) (nonempty' : parts' ≠ [])
    (h : ∀ part ∈ parts, UniquePrefix rank part.1 part.2)
    (h' : ∀ part ∈ parts', Reads rank part.1 part.2)
    (equal : [joint].intercalate (parts.map Prod.fst) ++ rest =
      [joint].intercalate (parts'.map Prod.fst) ++ rest') : parts = parts' := by
  induction parts generalizing parts' with
  | nil => exact absurd rfl nonempty
  | cons part more ih =>
    cases parts' with
    | nil => exact absurd rfl nonempty'
    | cons part' more' =>
      rw [List.forall_mem_cons] at h h'
      -- Where one list of parts ends, what follows it does not start with the joint, so the other
      -- ends too.
      cases more with
      | nil =>
        cases more' with
        | nil =>
          obtain ⟨first, second⟩ := h.1 _ _ _ _ h'.1 hrest.1 hrest'.1 (by simpa using equal)
          rw [Prod.ext first second]
        | cons next' more' =>
          simp only [List.map_cons, List.map_nil, List.intercalate_singleton,
            List.intercalate_cons_cons, List.append_assoc, List.singleton_append] at equal
          obtain ⟨first, second⟩ := h.1 _ _ _ _ h'.1 hrest.1 (beforeJoint _) equal
          rw [first, List.append_cancel_left_eq] at equal
          exact absurd (by rw [equal]; rfl) hrest.2
      | cons next more =>
        cases more' with
        | nil =>
          simp only [List.map_cons, List.map_nil, List.intercalate_singleton,
            List.intercalate_cons_cons, List.append_assoc, List.singleton_append] at equal
          obtain ⟨first, second⟩ := h.1 _ _ _ _ h'.1 (beforeJoint _) hrest'.1 equal
          rw [first, List.append_cancel_left_eq] at equal
          exact absurd (by rw [← equal]; rfl) hrest'.2
        | cons next' more' =>
          simp only [List.map_cons, List.intercalate_cons_cons, List.append_assoc,
            List.singleton_append] at equal
          obtain ⟨first, second⟩ := h.1 _ _ _ _ h'.1 (beforeJoint _) (beforeJoint _) equal
          rw [first, List.append_cancel_left_eq, List.cons_append, List.cons_append,
            List.cons.injEq] at equal
          rw [ih (by simp) (by simp) h.2 h'.2 equal.2, Prod.ext first second]

theorem uniquePrefix_compare (comparison : Comparison) {left right : List Token} {a b : Operand}
    (ha : ReadsOperand left a) (hb : ReadsOperand right b) :
    UniquePrefix .predicate (left ++ .operator comparison :: right) (.compare comparison a b) := by
  intro others rest rest' formula h' _ _ equal
  cases h' with
  | compare comparison' ha' hb' =>
    simp only [List.append_assoc, List.cons_append] at equal
    obtain ⟨rfl, rfl⟩ := ha.unique_prefix ha' equal
    simp only [List.append_cancel_left_eq, List.cons.injEq, Token.operator.injEq] at equal
    obtain ⟨rfl, equal⟩ := equal
    obtain ⟨rfl, rfl⟩ := hb.unique_prefix hb' equal
    exact ⟨rfl, rfl⟩
  | like ha' hb' hc' =>
    simp only [List.append_assoc, List.cons_append] at equal
    obtain ⟨rfl, rfl⟩ := ha.unique_prefix ha' equal
    simp [Token.keyword] at equal
  | parentheses h' =>
    obtain ⟨first, more, rfl, noOpening, -⟩ := ha.head
    simp only [List.cons_append, List.cons.injEq] at equal
    exact absurd equal.1 noOpening

theorem uniquePrefix_like {text pattern escape : List Token} {a b c : Operand}
    (ha : ReadsOperand text a) (hb : ReadsOperand pattern b) (hc : ReadsOperand escape c) :
    UniquePrefix .predicate
      (text ++ .keyword "LIKE" :: (pattern ++ .keyword "ESCAPE" :: escape)) (.like a b c) := by
  intro others rest rest' formula h' _ _ equal
  cases h' with
  | compare comparison' ha' hb' =>
    simp only [List.append_assoc, List.cons_append] at equal
    obtain ⟨rfl, rfl⟩ := ha.unique_prefix ha' equal
    simp [Token.keyword] at equal
  | like ha' hb' hc' =>
    simp only [List.append_assoc, List.cons_append] at equal
    obtain ⟨rfl, rfl⟩ := ha.unique_prefix ha' equal
    simp only [List.append_cancel_left_eq, List.cons.injEq, true_and] at equal
    obtain ⟨rfl, rfl⟩ := hb.unique_prefix hb' equal
    simp only [List.append_cancel_left_eq, List.cons.injEq, true_and] at equal
    obtain ⟨rfl, rfl⟩ := hc.unique_prefix hc' equal
    exact ⟨rfl, rfl⟩
  | parentheses h' =>
    obtain ⟨first, more, rfl, noOpening, -⟩ := ha.head
    simp only [List.cons_append, List.cons.injEq] at equal
    exact absurd equal.1 noOpening

/-- Between parentheses only the inside can be read differently. -/
theorem uniquePrefix_parentheses {tokens : List Token} {formula : Formula}
    (ih : UniquePrefix .disjunction tokens formula) :
    UniquePrefix .predicate (.opening :: (tokens ++ [.closing])) formula := by
  intro others rest rest' formula' h' _ _ equal
  have closes : ∀ rest, Rank.EndsBefore .disjunction (.closing :: rest) := by
    simp [Rank.EndsBefore, Token.keyword]
  cases h' with
  | compare comparison' ha' hb' =>
    obtain ⟨first, more, rfl, noOpening, -⟩ := ha'.head
    simp only [List.cons_append, List.cons.injEq] at equal
    exact absurd equal.1.symm noOpening
  | like ha' hb' hc' =>
    obtain ⟨first, more, rfl, noOpening, -⟩ := ha'.head
    simp only [List.cons_append, List.cons.injEq] at equal
    exact absurd equal.1.symm noOpening
  | parentheses h' =>
    simp only [List.cons_append, List.append_assoc, List.cons.injEq, true_and] at equal
    obtain ⟨rfl, rfl⟩ := ih _ _ _ _ h' (closes _) (closes _) equal
    exact ⟨rfl, rfl⟩

/-- A conjunction is read in one way if its parts are, as each of them ends where the next `AND`
stands. -/
theorem uniquePrefix_conjunction {parts : List (List Token × Formula)} (nonempty : parts ≠ [])
    (ih : ∀ part ∈ parts, UniquePrefix .negation part.1 part.2) :
    UniquePrefix .conjunction ([.keyword "AND"].intercalate (parts.map Prod.fst))
      (.grouped .all (parts.map Prod.snd)) := by
  intro others rest rest' formula h' ends ends' equal
  obtain ⟨parts', nonempty', members', rfl, rfl⟩ := h'.parts_of_conjunction
  have beforeJoint : ∀ tokens, Rank.EndsBefore .negation (.keyword "AND" :: tokens) :=
    fun _ => trivial
  obtain rfl := parts_unique beforeJoint ⟨trivial, ends⟩ ⟨trivial, ends'⟩ nonempty nonempty' ih
    members' equal
  exact ⟨rfl, rfl⟩

theorem uniquePrefix_disjunction {parts : List (List Token × Formula)} (nonempty : parts ≠ [])
    (ih : ∀ part ∈ parts, UniquePrefix .conjunction part.1 part.2) :
    UniquePrefix .disjunction ([.keyword "OR"].intercalate (parts.map Prod.fst))
      (.grouped .any (parts.map Prod.snd)) := by
  intro others rest rest' formula h' ends ends' equal
  obtain ⟨parts', nonempty', members', rfl, rfl⟩ := h'.parts_of_disjunction
  have beforeJoint : ∀ tokens, Rank.EndsBefore .conjunction (.keyword "OR" :: tokens) := by
    simp [Rank.EndsBefore, Token.keyword]
  obtain rfl := parts_unique beforeJoint ends ends' nonempty nonempty' ih members' equal
  exact ⟨rfl, rfl⟩

/-- A formula at the beginning of a list of tokens ends at one place only and has one reading. -/
theorem Reads.unique_prefix {rank : Rank} {tokens : List Token} {formula : Formula}
    (h : Reads rank tokens formula) : UniquePrefix rank tokens formula := by
  induction h with
  | compare comparison ha hb => exact uniquePrefix_compare comparison ha hb
  | like ha hb hc => exact uniquePrefix_like ha hb hc
  | parentheses h ih => exact uniquePrefix_parentheses ih
  | predicate h ih =>
    intro others rest rest' formula h' ends ends' equal
    cases h' with
    | predicate h' => exact ih _ _ _ _ h' trivial trivial equal
    | not h' =>
      -- No predicate starts with `NOT`, so the two readings start with different tokens.
      obtain ⟨first, more, rfl, noNot⟩ := h.head_predicate
      simp only [List.cons_append, List.cons.injEq] at equal
      exact absurd equal.1 noNot
  | not h ih =>
    intro others rest rest' formula h' ends ends' equal
    cases h' with
    | predicate h' =>
      obtain ⟨first, more, rfl, noNot⟩ := h'.head_predicate
      simp only [List.cons_append, List.cons.injEq] at equal
      exact absurd equal.1.symm noNot
    | not h' =>
      simp only [List.cons_append, List.cons.injEq, true_and] at equal
      obtain ⟨rfl, rfl⟩ := ih _ _ _ _ h' trivial trivial equal
      exact ⟨rfl, rfl⟩
  -- A single part is a group of one, so the lemma on groups covers it.
  | @negation tokens formula h ih =>
    have unique := @uniquePrefix_conjunction [(tokens, formula)] (by simp) (by simpa using ih)
    simpa [Formula.grouped] using unique
  | all several h ih =>
    have unique := uniquePrefix_conjunction (List.ne_nil_of_length_pos (by omega)) ih
    rwa [Formula.grouped_of_several _ (by simpa using several)] at unique
  | @conjunction tokens formula h ih =>
    have unique := @uniquePrefix_disjunction [(tokens, formula)] (by simp) (by simpa using ih)
    simpa [Formula.grouped] using unique
  | any several h ih =>
    have unique := uniquePrefix_disjunction (List.ne_nil_of_length_pos (by omega)) ih
    rwa [Formula.grouped_of_several _ (by simpa using several)] at unique

/-- No list of tokens has two readings. -/
theorem Reads.unique {tokens : List Token} {formula formula' : Formula}
    (h : Reads .disjunction tokens formula) (h' : Reads .disjunction tokens formula') :
    formula = formula' :=
  have ends : Rank.EndsBefore .disjunction [] := by simp [Rank.EndsBefore]
  (h.unique_prefix tokens [] [] formula' h' ends ends rfl).2

end EstateSearch.Sql
