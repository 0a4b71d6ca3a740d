import EstateSearch.Condition.Basic
import EstateSearch.Text.Blank

/-!
# Tokens of SQL texts

How a database cuts a text into tokens: the longest words, texts between quotes in which a doubled
quote stands for one, operators, parentheses and commas. Blanks only separate. A text with any other
sign, or with a quote that stays open, is no SQL here.
-/

set_option autoImplicit false

namespace EstateSearch.Sql

inductive Token where
  /-- a name, a keyword, a number or a placeholder -/
  | word (content : List Char)
  /-- a text between quotes -/
  | literal (content : List Char)
  | operator (comparison : Comparison)
  | opening
  | closing
  | comma
  deriving DecidableEq, Repr

def Token.keyword (name : String) : Token := .word name.toList

def isWordChar (c : Char) : Bool := c.isAlphanum || c == '_' || c == '$'

def signToken? (c : Char) : Option Token :=
  if c = '=' then some (.operator .equal)
  else if c = '(' then some .opening
  else if c = ')' then some .closing
  else if c = ',' then some .comma
  else none

def begunComparison? (c : Char) : Option Comparison :=
  if c = '>' then some .atLeast
  else if c = '<' then some .atMost
  else none

def wordRead (word : List Char) : List Token :=
  if word.isEmpty then [] else [.word word]

/-- Where in a text the cutting stands. -/
inductive Scan where
  /-- outside quotes, after the beginning of a word -/
  | outside (word : List Char)
  /-- before the equals sign of a comparison -/
  | begun (comparison : Comparison)
  /-- inside quotes, after the beginning of the content -/
  | inside (content : List Char)
  /-- inside quotes, before the second one of a doubled quote -/
  | doubled (content : List Char)

/-- The tokens of a text from a place on; none if it is no SQL. -/
def scan : Scan → List Char → Option (List Token)
  | .outside word, [] => some (wordRead word)
  | .outside word, c :: rest =>
    if isWordChar c then scan (.outside (word ++ [c])) rest
    else Option.map (wordRead word ++ ·) <|
      if Text.isBlank c then scan (.outside []) rest
      else if c = '\'' then scan (.inside []) rest
      else match signToken? c, begunComparison? c with
        | some sign, _ => (scan (.outside []) rest).map (sign :: ·)
        | none, some comparison => scan (.begun comparison) rest
        | none, none => none
  | .begun comparison, c :: rest =>
    if c = '=' then (scan (.outside []) rest).map (.operator comparison :: ·) else none
  | .inside content, c :: rest =>
    if c = '\'' then
      if rest.head? = some '\'' then scan (.doubled content) rest
      else (scan (.outside []) rest).map (.literal content :: ·)
    else scan (.inside (content ++ [c])) rest
  | .doubled content, c :: rest => scan (.inside (content ++ [c])) rest
  | _, [] => none

/-- The tokens of a text; none if it is no SQL. -/
def tokens? (text : String) : Option (List Token) := scan (.outside []) text.toList

example : tokens? "a>=$1" = some [.word ['a'], .operator .atLeast, .word ['$', '1']] := by decide
example : tokens? "'it''s'" = some [.literal ['i', 't', '\'', 's']] := by decide
example : tokens? "'open" = none := by cbv

/-! ### Tokens of texts that are put together -/

/-- Does neither a word go on in what follows nor a quote get doubled? -/
def EndsToken (rest : List Char) : Prop := ∀ c ∈ rest.head?, isWordChar c = false ∧ c ≠ '\''

theorem endsToken_nil : EndsToken [] := by simp [EndsToken]

theorem endsToken_cons {c : Char} (h : (!isWordChar c && c != '\'') = true) (rest : List Char) :
    EndsToken (c :: rest) := by
  simpa [EndsToken] using h

/-- The text is cut into these tokens, and on from there, wherever its last token ends with it. -/
def Scans (text : List Char) (tokens : List Token) : Prop :=
  ∀ rest, EndsToken rest →
    scan (.outside []) (text ++ rest) = (scan (.outside []) rest).map (tokens ++ ·)

theorem Scans.tokens?_eq {text : String} {tokens : List Token} (h : Scans text.toList tokens) :
    tokens? text = some tokens := by
  have whole := h [] endsToken_nil
  rw [List.append_nil] at whole
  rw [tokens?, whole]
  simp [scan, wordRead]

theorem scan_wordChars {chars : List Char} (h : ∀ c ∈ chars, isWordChar c = true)
    (word rest : List Char) :
    scan (.outside word) (chars ++ rest) = scan (.outside (word ++ chars)) rest := by
  induction chars generalizing word with
  | nil => simp
  | cons c chars ih =>
    rw [List.forall_mem_cons] at h
    rw [List.cons_append, scan, if_pos h.1, ih h.2, List.append_assoc]
    rfl

/-- Where a word ends, it is a token. -/
theorem scan_endsToken {rest : List Char} (h : EndsToken rest) (word : List Char) :
    scan (.outside word) rest = (scan (.outside []) rest).map (wordRead word ++ ·) := by
  cases rest with
  | nil => simp [scan, wordRead]
  | cons c rest =>
    have plain : ¬isWordChar c = true := by simp [h c rfl]
    rw [scan, scan, if_neg plain, if_neg plain, Option.map_map]
    rfl

theorem Scans.word {chars : List Char} (h : (!chars.isEmpty && chars.all isWordChar) = true) :
    Scans chars [.word chars] := by
  rw [Bool.and_eq_true, List.all_eq_true] at h
  intro rest ends
  rw [scan_wordChars h.2, List.nil_append, scan_endsToken ends, wordRead, if_neg (by simpa using h.1)]

theorem scans_nil : Scans [] [] := by
  intro rest _
  simp

theorem Scans.blank {text : List Char} {tokens : List Token} (h : Scans text tokens) :
    Scans (' ' :: text) tokens := by
  intro rest ends
  rw [List.cons_append, scan, if_neg (by decide), if_pos (by decide), h rest ends]
  simp [wordRead, Function.comp_def]

def IsSign (c : Char) (sign : Token) : Prop :=
  isWordChar c = false ∧ Text.isBlank c = false ∧ c ≠ '\'' ∧ signToken? c = some sign

theorem Scans.sign {c : Char} {sign : Token} (h : IsSign c sign) {text : List Char}
    {tokens : List Token} (scans : Scans text tokens) : Scans (c :: text) (sign :: tokens) := by
  obtain ⟨noWord, noBlank, noQuote, isSign⟩ := h
  intro rest ends
  rw [List.cons_append, scan, if_neg (by simp [noWord]), if_neg (by simp [noBlank]),
    if_neg noQuote, isSign, scans rest ends]
  simp [wordRead, Function.comp_def]

theorem scan_begun {c : Char} {comparison : Comparison} (h : begunComparison? c = some comparison)
    (noWord : isWordChar c = false) (noBlank : Text.isBlank c = false) (noQuote : c ≠ '\'')
    (noSign : signToken? c = none) (rest : List Char) :
    scan (.outside []) (c :: '=' :: rest) =
      (scan (.outside []) rest).map (.operator comparison :: ·) := by
  have completed : scan (.begun comparison) ('=' :: rest) =
      (scan (.outside []) rest).map (.operator comparison :: ·) := by
    rw [scan, if_pos rfl]
  rw [scan, if_neg (by simp [noWord]), if_neg (by simp [noBlank]), if_neg noQuote, noSign, h]
  simp [completed, wordRead, Function.comp_def]

/-- A sign of comparison is one token, whether it has one character or two. -/
theorem Scans.comparison (comparison : Comparison) {text : List Char} {tokens : List Token}
    (h : Scans text tokens) :
    Scans (comparison.sign.toList ++ text) (.operator comparison :: tokens) := by
  cases comparison with
  | equal => exact Scans.sign ⟨by decide, by decide, by decide, rfl⟩ h
  | atLeast =>
    intro rest ends
    have step := scan_begun (c := '>') rfl (by decide) (by decide) (by decide) rfl (text ++ rest)
    simpa [Comparison.sign, h rest ends, Function.comp_def] using step
  | atMost =>
    intro rest ends
    have step := scan_begun (c := '<') rfl (by decide) (by decide) (by decide) rfl (text ++ rest)
    simpa [Comparison.sign, h rest ends, Function.comp_def] using step

theorem scan_inside {content : List Char} (h : '\'' ∉ content) (before rest : List Char) :
    scan (.inside before) (content ++ rest) = scan (.inside (before ++ content)) rest := by
  induction content generalizing before with
  | nil => simp
  | cons c content ih =>
    rw [List.mem_cons, not_or] at h
    rw [List.cons_append, scan, if_neg (Ne.symm h.1), ih h.2, List.append_assoc]
    rfl

/-- A quoted text without quotes inside is one token. -/
theorem Scans.literal (content : List Char) (h : '\'' ∉ content) :
    Scans ('\'' :: content ++ ['\'']) [.literal content] := by
  intro rest ends
  have alone : ¬rest.head? = some '\'' := fun quote => (ends '\'' quote).2 rfl
  rw [List.append_assoc, List.cons_append, scan, if_neg (by decide), if_neg (by decide),
    if_pos rfl, scan_inside h, List.singleton_append, scan, if_pos rfl, if_neg alone]
  simp [wordRead, Function.comp_def]

/-- Texts may be joined where the second starts with a blank or with a sign. -/
theorem Scans.append {c : Char} {first second : List Char} {tokens others : List Token}
    (h : Scans first tokens) (hc : (!isWordChar c && c != '\'') = true)
    (h' : Scans (c :: second) others) : Scans (first ++ c :: second) (tokens ++ others) := by
  intro rest ends
  rw [List.append_assoc, h (c :: second ++ rest) (endsToken_cons hc _), h' rest ends]
  simp [Function.comp_def]

theorem Scans.keyword_append (name : String)
    (h : (!name.toList.isEmpty && name.toList.all isWordChar) = true) {c : Char}
    (hc : (!isWordChar c && c != '\'') = true) {text : List Char} {tokens : List Token}
    (h' : Scans (c :: text) tokens) :
    Scans (name.toList ++ c :: text) (.keyword name :: tokens) :=
  (Scans.word h).append hc h'

end EstateSearch.Sql
