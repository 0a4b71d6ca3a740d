import EstateSearch.Proofs.Query.Fragments
import EstateSearch.Proofs.Query.LetterCase

/-!
# Queries in their usual form

The usual form of a query is read back as the same query (`sameEntries_display_iff`), unless a term
starts with a hyphen. Such a term, which only a quote without a partner can leave in a query, is
written as an exclusion looks and comes back as one.

The usual form is a list of fragments with spaces between them: quotations, words, and words after
a hyphen. The quotes of each fragment come in pairs, so the text asks for what the fragments ask for
one after the other (`parse_intercalate`). It remains to read single fragments, and for this the
entries must be clean: a phrase with a blank at its end or a term with a capital would come back
changed, and a term that the policy does not admit would not come back at all.
-/

set_option autoImplicit false

namespace EstateSearch.Query

open Text

variable {policy : TermPolicy}

/-! ### Fragments with spaces between them -/

theorem parse_empty (policy : TermPolicy) : parse policy "" = ⟨[], [], [], ""⟩ := by
  have blank : isBlankText "".toList = true := by decide
  rw [parse, if_pos blank]

/-- Fragments whose quotes come in pairs are read one by one. -/
theorem parse_intercalate (policy : TermPolicy) {fragments : List String}
    (paired : ∀ fragment ∈ fragments, Even (fragment.toList.count '"')) :
    let query := parse policy (" ".intercalate fragments)
    query.phrases = fragments.flatMap (fun fragment => (parse policy fragment).phrases) ∧
      query.terms = fragments.flatMap (fun fragment => (parse policy fragment).terms) ∧
      query.exclusions = fragments.flatMap fun fragment => (parse policy fragment).exclusions := by
  induction fragments with
  | nil => simp [parse_empty]
  | cons first others ih =>
    rw [List.forall_mem_cons] at paired
    obtain ⟨phrases, terms, exclusions⟩ := ih paired.2
    cases others with
    | nil => simp
    | cons second others =>
      -- The first fragment has paired quotes, so the rest is read as if it stood alone.
      have join := isJoin_parse policy paired.1 (" ".intercalate (second :: others))
      rw [String.intercalate_cons_cons]
      refine ⟨?_, ?_, ?_⟩
      · rw [List.flatMap_cons, ← phrases]
        exact join.phrases
      · rw [List.flatMap_cons, ← terms]
        exact join.terms
      · rw [List.flatMap_cons, ← exclusions]
        exact join.exclusions

/-! ### Single fragments -/

theorem IsNeedle.isBlankText_eq {text : String} (h : IsNeedle text) :
    isBlankText text.toList = false := by
  rw [Bool.eq_false_iff, ne_eq, ← trim_eq_nil_iff, h.trimmed.trim_eq, String.toList_eq_nil_iff]
  exact h.nonempty

theorem IsNeedle.lowercase_eq {text : String} (h : IsNeedle text) :
    lowercase text.toList = text.toList := by
  have lowered := congrArg String.toList h.lowered
  rwa [lower, String.toList_ofList] at lowered

/-- A phrase between quotes is read back. -/
theorem parse_quoted (policy : TermPolicy) {phrase : String} (h : IsNeedle phrase) :
    let query := parse policy ("\"" ++ phrase ++ "\"")
    query.phrases = [phrase] ∧ query.terms = [] ∧ query.exclusions = [] := by
  obtain ⟨phrases, rest⟩ := parse_quotation policy h.noQuote
  refine ⟨?_, rest⟩
  rw [phrases, h.isBlankText_eq, normalPhrase, h.trimmed.trim_eq, h.lowercase_eq,
    String.ofList_toList]
  rfl

/-! ### Words -/

def startsPlain (text : String) : Bool := text.toList.head? != some '-'

section Words

variable {term : String} (h : IsNeedle term) (solid : ∀ c ∈ term.toList, isBlank c = false)

include h solid

theorem IsNeedle.isWord : IsWord term :=
  ⟨h.nonempty, h.noQuote, solid⟩

/-- A needle is in normal form already. -/
theorem IsNeedle.normalTerm_eq : normalTerm term.toList = term.toList := by
  rw [normalTerm_of_not_mem solid h.noQuote, h.lowercase_eq]

/-- A word that the policy admits is a term, unless a hyphen stands in front. -/
theorem parse_admitted (admitted : policy.admits term = true) :
    let query := parse policy term
    query.phrases = [] ∧ query.terms = [term].filter startsPlain ∧
      (startsPlain term = true → query.exclusions = []) := by
  have word := h.isWord solid
  obtain ⟨phrases, terms, exclusions⟩ := parse_word policy word
  cases plain : startsPlain term with
  | true =>
    have kept : excludes term.toList = false := excludes_eq_false (by simpa [startsPlain] using plain)
    refine ⟨phrases, ?_, fun _ => exclusions kept⟩
    simp [parse_terms, word.extractPhrases_eq, word.words_eq, kept, h.normalTerm_eq solid, admitted,
      plain]
  | false =>
    -- An admitted term with a hyphen in front has more after it, so it is read as an exclusion.
    have long := TermPolicy.two_le_length_of_admits admitted
    have hyphen : term.toList.head? = some '-' := by simpa [startsPlain] using plain
    have excluding : excludes term.toList = true := by
      rw [excludes, hyphen]
      exact decide_eq_true long
    refine ⟨phrases, ?_, by simp⟩
    rw [terms excluding, List.filter_singleton, plain]
    rfl

/-- A word behind a hyphen is an exclusion. -/
theorem parse_hyphen_append (policy : TermPolicy) (notHyphen : term ≠ "-") :
    let query := parse policy ("-" ++ term)
    query.phrases = [] ∧ query.terms = [] ∧ query.exclusions = [term] := by
  have word := (h.isWord solid).hyphen_append
  have excluding := (h.isWord solid).excludes_hyphen_append
  obtain ⟨phrases, terms, -⟩ := parse_word policy word
  refine ⟨phrases, terms excluding, ?_⟩
  have worth : isExclusion term.toList = true := by
    have other : term.toList ≠ ['-'] := fun same => notHyphen (String.toList_inj.1 same)
    simpa [isExclusion, other] using h.nonempty
  rw [parse_exclusions, word.extractPhrases_eq, word.words_eq, List.filter_singleton, excluding]
  simp [h.normalTerm_eq solid, worth]

end Words

/-! ### The usual form -/

def fragments (query : Query) : List String :=
  query.phrases.map (fun phrase => "\"" ++ phrase ++ "\"") ++ query.terms ++
    query.exclusions.map fun term => "-" ++ term

/-- What is gathered from the usual form comes from phrases, terms and exclusions in turn. -/
theorem flatMap_fragments (query : Query) (f : String → List String) :
    query.fragments.flatMap f =
      query.phrases.flatMap (fun phrase => f ("\"" ++ phrase ++ "\"")) ++ query.terms.flatMap f ++
        query.exclusions.flatMap fun term => f ("-" ++ term) := by
  simp [fragments, List.flatMap_map]

theorem count_quote_of_not_mem {text : String} (h : '"' ∉ text.toList) :
    Even (text.toList.count '"') := by
  rw [List.count_eq_zero.2 h]
  exact Even.zero

variable {query : Query}

theorem IsClean.of_mem_phrases (clean : IsClean policy query) :
    ∀ phrase ∈ query.phrases, IsNeedle phrase :=
  fun phrase belongs => clean.needle phrase (by simp [entries, belongs])

theorem IsClean.of_mem_terms (clean : IsClean policy query) :
    ∀ term ∈ query.terms, IsNeedle term ∧ ∀ c ∈ term.toList, isBlank c = false :=
  fun term belongs => ⟨clean.needle term (by simp [entries, belongs]),
    clean.solid term (by simp [belongs])⟩

theorem IsClean.of_mem_exclusions (clean : IsClean policy query) :
    ∀ term ∈ query.exclusions, IsNeedle term ∧ ∀ c ∈ term.toList, isBlank c = false :=
  fun term belongs => ⟨clean.needle term (by simp [entries, belongs]),
    clean.solid term (by simp [belongs])⟩

/-- Fragments of the usual form never leave a quote without a partner. -/
theorem IsClean.paired (clean : IsClean policy query) :
    ∀ fragment ∈ query.fragments, Even (fragment.toList.count '"') := by
  intro fragment belongs
  simp only [fragments, List.mem_append, List.mem_map] at belongs
  rcases belongs with (⟨phrase, listed, rfl⟩ | listed) | ⟨term, listed, rfl⟩
  · have noQuote := List.count_eq_zero.2 (clean.of_mem_phrases phrase listed).noQuote
    have two : ("\"" ++ phrase ++ "\"").toList.count '"' = 1 + 1 := by simp [noQuote]
    exact ⟨1, two⟩
  · exact count_quote_of_not_mem (clean.of_mem_terms fragment listed).1.noQuote
  · have noQuote := (clean.of_mem_exclusions term listed).1.noQuote
    exact count_quote_of_not_mem (by simpa using noQuote)

/-- What is read from the usual form of a clean query. -/
theorem parse_display (clean : IsClean policy query) :
    let read := parse policy query.display
    read.phrases = query.phrases ∧ read.terms = query.terms.filter startsPlain ∧
      ((∀ term ∈ query.terms, startsPlain term = true) → read.exclusions = query.exclusions) := by
  obtain ⟨phrases, terms, exclusions⟩ := parse_intercalate policy clean.paired
  rw [flatMap_fragments] at phrases terms exclusions
  have quoted (phrase : String) (listed : phrase ∈ query.phrases) :=
    parse_quoted policy (clean.of_mem_phrases phrase listed)
  have written (term : String) (listed : term ∈ query.terms) :=
    parse_admitted (clean.of_mem_terms term listed).1 (clean.of_mem_terms term listed).2
      (clean.admitted term listed).1
  have excluded (term : String) (listed : term ∈ query.exclusions) :=
    parse_hyphen_append (clean.of_mem_exclusions term listed).1
      (clean.of_mem_exclusions term listed).2 policy (clean.notHyphen term listed)
  -- Each kind of fragment adds to its own list only, except that a term with a hyphen in front
  -- would exclude.
  refine ⟨?_, ?_, fun plain => ?_⟩
  · refine phrases.trans ?_
    rw [List.flatMap_congr fun phrase listed => (quoted phrase listed).1, List.flatMap_singleton',
      List.flatMap_eq_nil_iff.2 fun term listed => (written term listed).1,
      List.flatMap_eq_nil_iff.2 fun term listed => (excluded term listed).1, List.append_nil,
      List.append_nil]
  · refine terms.trans ?_
    rw [List.flatMap_eq_nil_iff.2 fun phrase listed => (quoted phrase listed).2.1,
      List.flatMap_congr fun term listed => (written term listed).2.1, ← List.filter_flatMap,
      List.flatMap_singleton',
      List.flatMap_eq_nil_iff.2 fun term listed => (excluded term listed).2.1, List.append_nil,
      List.nil_append]
  · refine exclusions.trans ?_
    rw [List.flatMap_eq_nil_iff.2 fun phrase listed => (quoted phrase listed).2.2,
      List.flatMap_eq_nil_iff.2 fun term listed => (written term listed).2.2 (plain term listed),
      List.flatMap_congr fun term listed => (excluded term listed).2.2, List.flatMap_singleton',
      List.nil_append, List.nil_append]

/-- The usual form of a clean query is read back as this query just if no term starts with a
hyphen. -/
theorem sameEntries_display_iff (clean : IsClean policy query) :
    SameEntries (parse policy query.display) query ↔
      ∀ term ∈ query.terms, startsPlain term = true := by
  obtain ⟨phrases, terms, exclusions⟩ := parse_display clean
  rw [← List.filter_eq_self]
  constructor
  · intro same
    exact terms.symm.trans same.terms
  · intro plain
    exact ⟨phrases, terms.trans plain, exclusions (List.filter_eq_self.1 plain)⟩

/-- The usual form of the query of a text is read back as this query just if no term starts with a
hyphen, and so always if the quotes of the text come in pairs. -/
theorem display_reads_back (policy : TermPolicy) (text : String) :
    let query := parse policy text
    (SameEntries (parse policy query.display) query ↔
        ∀ term ∈ query.terms, term.toList.head? ≠ some '-') ∧
      (Even (text.toList.count '"') → SameEntries (parse policy query.display) query) := by
  intro query
  have plain (term : String) : startsPlain term = true ↔ term.toList.head? ≠ some '-' := by
    rw [startsPlain, bne_iff_ne]
  have back := sameEntries_display_iff (isClean_parse policy text)
  simp only [plain] at back
  exact ⟨back, fun paired => back.2 fun term => head?_ne_of_mem_terms paired⟩

/-- An exclusion that starts with a hyphen itself, a short term that is listed, a capital with a
lowercase of two characters, and a phrase with a hyphen inside. -/
theorem display_reads_back_vue :
    let policy : TermPolicy := ⟨["t2"], ⟨.empty⟩⟩
    let text := "--Cave T2 İlot \"Vue -Mer\""
    Even (text.toList.count '"') ∧
      SameEntries (parse policy (parse policy text).display) (parse policy text) := by
  intro policy text
  have paired : Even (text.toList.count '"') := by decide
  exact ⟨paired, (display_reads_back policy text).2 paired⟩

end EstateSearch.Query
