import EstateSearch.Proofs.Decimal.Numeral
import EstateSearch.Proofs.Sql.Clause
import EstateSearch.Proofs.Sql.Grammar

/-!
# How written clauses are read

The text of a clause is cut into the tokens that `Clause.tokens` lists (`Clause.scans_text`), and
by the precedence of SQL these have one reading, the clause itself, in which a group of one member
is this member (`Clause.readsText`). So the parentheses that are written are just enough.
-/

set_option autoImplicit false

namespace EstateSearch.Sql

/-- A text that is read as a formula. -/
def ReadsText (text : String) (formula : Formula) : Prop :=
  ∃ tokens, tokens? text = some tokens ∧ Reads .disjunction tokens formula

/-- A text is read as one formula at most. -/
theorem ReadsText.unique {text : String} {formula formula' : Formula}
    (h : ReadsText text formula) (h' : ReadsText text formula') : formula = formula' := by
  obtain ⟨tokens, cut, reads⟩ := h
  obtain ⟨tokens', cut', reads'⟩ := h'
  rw [cut, Option.some.injEq] at cut'
  exact reads.unique (cut' ▸ reads')

namespace Clause

def placeholderToken (n : Nat) : Token := .word (placeholderText n).toList

def columnToken (field : Field) : Token := .word field.column.toList

mutual

def tokens : Clause → List Token
  | constant holds => [.word ['1'], .operator .equal, .word [if holds then '1' else '0']]
  | like field n =>
    [.keyword "COALESCE", .opening, .keyword "LOWER", .opening, columnToken field, .closing, .comma,
      .literal [], .closing, .keyword "LIKE", placeholderToken n, .keyword "ESCAPE",
      .literal ['\\']]
  | compare comparison field n =>
    [columnToken field, .operator comparison, placeholderToken n]
  | not clause =>
    .keyword "NOT" :: if clause.isGroup then tokens clause
      else .opening :: (tokens clause ++ [.closing])
  | all first others =>
    .opening :: ([.keyword "AND"].intercalate (tokens first :: tokensOfEach others) ++ [.closing])
  | any first others =>
    .opening :: ([.keyword "OR"].intercalate (tokens first :: tokensOfEach others) ++ [.closing])

def tokensOfEach : List Clause → List (List Token)
  | [] => []
  | member :: others => tokens member :: tokensOfEach others

end

mutual

def formula : Clause → Formula
  | constant holds => .compare .equal (.number 1) (.number (if holds then 1 else 0))
  | like field n =>
    .like (.coalesce (.lower (.column field)) (.text [])) (.placeholder n) (.text ['\\'])
  | compare comparison field n => .compare comparison (.column field) (.placeholder n)
  | not clause => .not (formula clause)
  | all first others => .grouped .all (formula first :: formulaOfEach others)
  | any first others => .grouped .any (formula first :: formulaOfEach others)

def formulaOfEach : List Clause → List Formula
  | [] => []
  | member :: others => formula member :: formulaOfEach others

end

theorem tokensOfEach_eq (members : List Clause) : tokensOfEach members = members.map tokens := by
  induction members with
  | nil => rfl
  | cons member others ih => rw [tokensOfEach, ih, List.map_cons]

theorem formulaOfEach_eq (members : List Clause) : formulaOfEach members = members.map formula := by
  induction members with
  | nil => rfl
  | cons member others ih => rw [formulaOfEach, ih, List.map_cons]

/-! ### Tokens of the text -/

theorem scans_column (field : Field) : Scans field.column.toList [columnToken field] :=
  Scans.word (by cases field <;> decide)

theorem placeholderText_toList (n : Nat) :
    (placeholderText n).toList = '$' :: Decimal.spell (Decimal.digits n) := by
  simp [placeholderText, Decimal.natText]

theorem isWordChar_toChar (digit : Decimal.Digit) : isWordChar digit.toChar = true := by
  revert digit
  decide

theorem scans_placeholder (n : Nat) : Scans (placeholderText n).toList [placeholderToken n] := by
  have mark : isWordChar '$' = true := by decide
  refine Scans.word ?_
  rw [placeholderText_toList]
  simp [Decimal.spell, isWordChar_toChar, mark]

theorem isSign_opening : IsSign '(' .opening := ⟨by decide, by decide, by decide, rfl⟩

theorem isSign_closing : IsSign ')' .closing := ⟨by decide, by decide, by decide, rfl⟩

theorem isSign_comma : IsSign ',' .comma := ⟨by decide, by decide, by decide, rfl⟩

theorem likeText_toList (field : Field) (n : Nat) :
    (likeText field n).toList = "COALESCE(LOWER(".toList ++ field.column.toList ++
      "), '') LIKE ".toList ++ (placeholderText n).toList ++ " ESCAPE '\\'".toList := by
  unfold likeText
  simp only [String.toList_append]

theorem scans_likeText (field : Field) (n : Nat) :
    Scans (likeText field n).toList (like field n).tokens := by
  have escape := Scans.keyword_append "ESCAPE" (by decide) (by decide)
    (Scans.literal ['\\'] (by decide)).blank
  have pattern := (scans_placeholder n).append (by decide) escape.blank
  have likeEscape := Scans.keyword_append "LIKE" (by decide) (by decide) pattern.blank
  have fallback := (Scans.literal [] (by decide)).append (by decide)
    (Scans.sign isSign_closing likeEscape.blank)
  have column := (scans_column field).append (by decide)
    (Scans.sign isSign_closing (Scans.sign isSign_comma fallback.blank))
  have lower := Scans.keyword_append "LOWER" (by decide) (by decide)
    (Scans.sign isSign_opening column)
  have coalesce := Scans.keyword_append "COALESCE" (by decide) (by decide)
    (Scans.sign isSign_opening lower)
  simpa [likeText_toList, tokens] using coalesce

theorem scans_compareText (comparison : Comparison) (field : Field) (n : Nat) :
    Scans (compareText comparison field n).toList (compare comparison field n).tokens := by
  have value := Scans.comparison comparison (scans_placeholder n).blank
  have column := (scans_column field).append (by decide) value.blank
  simpa [compareText, tokens] using column

theorem scans_constant (holds : Bool) :
    Scans (constant holds).text.toList (constant holds).tokens := by
  have left : Scans ['1'] [.word ['1']] := Scans.word (by decide)
  have right : Scans [if holds then '1' else '0'] [.word [if holds then '1' else '0']] :=
    Scans.word (by cases holds <;> decide)
  have value : Scans ['=', if holds then '1' else '0']
      [.operator .equal, .word [if holds then '1' else '0']] := Scans.comparison .equal right
  have whole := left.append (by decide) value
  cases holds <;> simpa [text, tokens] using whole

/-- Parentheses are tokens of their own, so the inside is cut as it stands. -/
theorem scans_parentheses {text : List Char} {tokens : List Token} (h : Scans text tokens) :
    Scans ('(' :: (text ++ [')'])) (.opening :: (tokens ++ [.closing])) :=
  Scans.sign isSign_opening (h.append (by decide) (Scans.sign isSign_closing scans_nil))

/-- The members of a group, with a keyword between blanks after each but the last. -/
theorem scans_group (keyword : String)
    (hkeyword : (!keyword.toList.isEmpty && keyword.toList.all isWordChar) = true)
    {members : List Clause} (nonempty : members ≠ [])
    (h : ∀ member ∈ members, Scans member.text.toList member.tokens) :
    Scans ((' ' :: (keyword.toList ++ [' '])).intercalate
        (members.map fun member => member.text.toList))
      ([.keyword keyword].intercalate (members.map tokens)) := by
  induction members with
  | nil => exact absurd rfl nonempty
  | cons member others ih =>
    rw [List.forall_mem_cons] at h
    cases others with
    | nil => simpa using h.1
    | cons next others =>
      have rest := (Scans.keyword_append keyword hkeyword (by decide)
        (ih (by simp) h.2).blank).blank
      have whole := h.1.append (by decide) rest
      simpa using whole

/-- The text of a clause is cut into the tokens of the clause. -/
theorem scans_text (clause : Clause) : Scans clause.text.toList clause.tokens := by
  induction clause with
  | constant holds => exact scans_constant holds
  | like field n => exact scans_likeText field n
  | compare comparison field n => exact scans_compareText comparison field n
  | not clause ih =>
    rw [text, tokens]
    split
    · have negated := Scans.keyword_append "NOT" (by decide) (by decide) ih.blank
      simpa using negated
    · have negated := Scans.keyword_append "NOT" (by decide) (by decide)
        (scans_parentheses ih).blank
      simpa using negated
  | all first others ih =>
    have group := scans_parentheses (scans_group "AND" (by decide) (by simp) ih)
    simpa [text, tokens, textOfEach_eq, tokensOfEach_eq, Function.comp_def] using group
  | any first others ih =>
    have group := scans_parentheses (scans_group "OR" (by decide) (by simp) ih)
    simpa [text, tokens, textOfEach_eq, tokensOfEach_eq, Function.comp_def] using group

/-! ### The reading of the tokens -/

theorem operandOfWord?_column (field : Field) :
    operandOfWord? field.column.toList = some (.column field) := by
  cases field <;> decide

theorem allDigits?_spell (digits : List Decimal.Digit) :
    Decimal.allDigits? (Decimal.spell digits) = some digits := by
  induction digits with
  | nil => rfl
  | cons digit digits ih =>
    rw [Decimal.allDigits?, Decimal.spell] at ih
    simp [Decimal.allDigits?, Decimal.spell, List.mapM_cons, Decimal.digit?_toChar, ih]

theorem operandOfWord?_placeholder (n : Nat) :
    operandOfWord? (placeholderText n).toList = some (.placeholder n) := by
  have number : numberOf? (Decimal.spell (Decimal.digits n)) = some n := by
    rw [numberOf?, if_neg (by simpa [Decimal.spell] using Decimal.digits_ne_nil n), allDigits?_spell,
      Option.map_some, Decimal.valueOf_digits]
  rw [placeholderText_toList, operandOfWord?, number, Option.map_some]

theorem readsOperand_column (field : Field) : ReadsOperand [columnToken field] (.column field) :=
  .word (operandOfWord?_column field)

theorem readsOperand_placeholder (n : Nat) :
    ReadsOperand [placeholderToken n] (.placeholder n) :=
  .word (operandOfWord?_placeholder n)

theorem reads_constant (holds : Bool) :
    Reads .predicate (constant holds).tokens (constant holds).formula := by
  have left : ReadsOperand [.word ['1']] (.number 1) := .word (by decide)
  have right : ReadsOperand [.word [if holds then '1' else '0']]
      (.number (if holds then 1 else 0)) := .word (by cases holds <;> decide)
  rw [tokens, formula]
  exact .compare .equal left right

theorem reads_like (field : Field) (n : Nat) :
    Reads .predicate (like field n).tokens (like field n).formula := by
  have text := ReadsOperand.coalesce (ReadsOperand.lower (readsOperand_column field))
    (ReadsOperand.literal [])
  rw [tokens, formula]
  exact .like text (readsOperand_placeholder n) (ReadsOperand.literal ['\\'])

theorem reads_compare (comparison : Comparison) (field : Field) (n : Nat) :
    Reads .predicate (compare comparison field n).tokens (compare comparison field n).formula := by
  rw [tokens, formula]
  exact .compare comparison (readsOperand_column field) (readsOperand_placeholder n)

/-- Clauses between `AND`s are read as the group of their formulas. -/
theorem reads_conjunction {members : List Clause} (nonempty : members ≠ [])
    (h : ∀ member ∈ members, Reads .negation member.tokens member.formula) :
    Reads .conjunction ([.keyword "AND"].intercalate (members.map tokens))
      (.grouped .all (members.map formula)) := by
  match members, nonempty with
  | [member], _ => simpa [Formula.grouped] using Reads.negation (h member (by simp))
  | first :: second :: others, _ =>
    have group := @Reads.all ((first :: second :: others).map fun member =>
      (member.tokens, member.formula)) (by simp) (by simpa using h)
    simpa [Formula.grouped, Function.comp_def] using group

theorem reads_disjunction {members : List Clause} (nonempty : members ≠ [])
    (h : ∀ member ∈ members, Reads .negation member.tokens member.formula) :
    Reads .disjunction ([.keyword "OR"].intercalate (members.map tokens))
      (.grouped .any (members.map formula)) := by
  match members, nonempty with
  | [member], _ =>
    simpa [Formula.grouped] using Reads.conjunction (Reads.negation (h member (by simp)))
  | first :: second :: others, _ =>
    have group := @Reads.any ((first :: second :: others).map fun member =>
      (member.tokens, member.formula)) (by simp)
      (by simpa using fun member belongs => Reads.negation (h member belongs))
    simpa [Formula.grouped, Function.comp_def] using group

/-- The tokens of a clause read as its formula. Those of a group are a predicate, so that `NOT` may
stand before them as they are. -/
theorem reads_tokens (clause : Clause) :
    Reads .negation clause.tokens clause.formula ∧
      (clause.isGroup = true → Reads .predicate clause.tokens clause.formula) := by
  induction clause with
  | constant holds => exact ⟨.predicate (reads_constant holds), fun _ => reads_constant holds⟩
  | like field n => exact ⟨.predicate (reads_like field n), fun _ => reads_like field n⟩
  | compare comparison field n =>
    exact ⟨.predicate (reads_compare comparison field n), fun _ => reads_compare comparison field n⟩
  -- A group comes with its own parentheses, and anything else gets them here.
  | not clause ih =>
    refine ⟨?_, fun group => by cases group⟩
    rw [tokens, formula]
    split
    · exact .not ih.1
    · exact .not (.predicate (.parentheses (.conjunction (.negation ih.1))))
  | all first others ih =>
    have group := reads_conjunction (by simp) fun member belongs => (ih member belongs).1
    have whole : Reads .predicate (all first others).tokens (all first others).formula := by
      rw [tokens, formula, tokensOfEach_eq, formulaOfEach_eq]
      exact .parentheses (.conjunction group)
    exact ⟨.predicate whole, fun _ => whole⟩
  | any first others ih =>
    have group := reads_disjunction (by simp) fun member belongs => (ih member belongs).1
    have whole : Reads .predicate (any first others).tokens (any first others).formula := by
      rw [tokens, formula, tokensOfEach_eq, formulaOfEach_eq]
      exact .parentheses group
    exact ⟨.predicate whole, fun _ => whole⟩

/-- The text of a clause reads as its formula. -/
theorem readsText (clause : Clause) : ReadsText clause.text clause.formula :=
  ⟨clause.tokens, (scans_text clause).tokens?_eq,
    .conjunction (.negation (reads_tokens clause).1)⟩

end Clause

end EstateSearch.Sql
