import EstateSearch.Proofs.Query.Join
import EstateSearch.Proofs.Text.Separators
import Mathlib.Data.List.GetD

/-!
# The entries of a query

What can be relied on in every query that was read from a text (`isClean_parse`). Entries come from
two places. A phrase is a span between quotes, trimmed and in lowercase, and a term or an exclusion
is a word without its quotes, in lowercase. Lowercase brings neither blanks nor quotes nor hyphens
into them (`EstateSearch.Proofs.Text.Separators`), so what was taken away stays away.

A term may start with a hyphen only if a quote without a partner stood in front of the hyphen. The
quotes of a text that has an even number of them all belong to spans, and none is left in a word
(`not_mem_extractPhrases`).
-/

set_option autoImplicit false

namespace EstateSearch.TermPolicy

/-- Terms of fewer than two characters are never kept. -/
theorem two_le_length_of_admits {policy : TermPolicy} {term : String}
    (h : policy.admits term = true) : 2 ≤ term.toList.length := by
  unfold TermPolicy.admits at h
  split at h
  · cases h
  · cases h
  · rename_i spelled
    simp [spelled]
  · rename_i noneNone noneOne noneTwo
    match term.toList, noneNone, noneOne with
    | [], noneNone, _ => exact absurd rfl noneNone
    | [a], _, noneOne => exact absurd rfl (noneOne a)
    | _ :: _ :: _, _, _ => simp

end EstateSearch.TermPolicy

namespace EstateSearch.Query

open Text

/-! ### Clean queries -/

/-- A text that can be looked for as it is: not empty, in lowercase, and with neither quotes nor
blanks at its ends. -/
structure IsNeedle (text : String) : Prop where
  nonempty : text ≠ ""
  lowered : lower text = text
  trimmed : IsTrimmed text.toList
  noQuote : '"' ∉ text.toList

/-- What a compiler of queries may rely on, if terms were chosen by the policy. -/
structure IsClean (policy : TermPolicy) (query : Query) : Prop where
  needle : ∀ entry ∈ entries query, IsNeedle entry
  solid : ∀ term ∈ query.terms ++ query.exclusions, ∀ c ∈ term.toList, isBlank c = false
  admitted : ∀ term ∈ query.terms, policy.admits term = true ∧ 2 ≤ term.toList.length
  notHyphen : ∀ term ∈ query.exclusions, term ≠ "-"

/-! ### Normal forms -/

theorem isNeedle_lowercase {text : List Char} (nonempty : String.ofList (lowercase text) ≠ "")
    (trimmed : IsTrimmed text) (noQuote : '"' ∉ text) :
    IsNeedle (String.ofList (lowercase text)) where
  nonempty := nonempty
  lowered := by rw [lower, String.toList_ofList, lowercase_lowercase]
  trimmed := by
    rw [String.toList_ofList]
    exact trimmed.lowercase
  noQuote := by
    rw [String.toList_ofList, mem_lowercase_of_isSeparator isSeparator_quote]
    exact noQuote

/-- The normal form of a span is a needle, unless nothing is left of it. -/
theorem isNeedle_normalPhrase {span : List Char} (nonempty : String.ofList (normalPhrase span) ≠ "")
    (noQuote : '"' ∉ span) : IsNeedle (String.ofList (normalPhrase span)) :=
  isNeedle_lowercase nonempty (isTrimmed_trim span) fun belongs => noQuote (mem_of_mem_trim belongs)

/-- The normal form of a word is a needle, unless nothing is left of it. -/
theorem isNeedle_normalTerm {word : List Char} (nonempty : String.ofList (normalTerm word) ≠ "") :
    IsNeedle (String.ofList (normalTerm word)) := by
  refine isNeedle_lowercase nonempty (isTrimmed_trim _) fun belongs => ?_
  have kept := (List.mem_filter.1 (mem_of_mem_trim belongs)).2
  exact absurd kept (by decide)

theorem solid_normalTerm {word : List Char} (solid : ∀ c ∈ word, isBlank c = false) :
    ∀ c ∈ normalTerm word, isBlank c = false := by
  rw [normalTerm_of_solid solid]
  exact solid_lowercase fun c belongs => solid c (List.mem_filter.1 belongs).1

theorem normalTerm_of_not_mem {word : List Char} (solid : ∀ c ∈ word, isBlank c = false)
    (noQuote : '"' ∉ word) : normalTerm word = lowercase word := by
  rw [normalTerm_of_solid solid, List.filter_eq_self.2]
  intro c belongs
  have notQuote : c ≠ '"' := by
    rintro rfl
    exact noQuote belongs
  simpa using notQuote

/-! ### Where entries come from -/

theorem not_mem_of_mem_spans {text span : List Char} (h : span ∈ spans (text.splitOn '"')) :
    '"' ∉ span := by
  obtain ⟨k, inRange, rfl⟩ := List.mem_map.1 h
  have bound : 2 * k + 1 < (text.splitOn '"').length := by
    have half := List.mem_range.1 inRange
    omega
  rw [List.getD_eq_getElem _ _ bound]
  intro quote
  have uncut := not_cut_of_mem_pieces (· == '"') text _
    (pieces_eq_splitOnP _ text ▸ List.getElem_mem bound) '"' quote
  exact absurd uncut (by decide)

/-- Every phrase comes from a span between two quotes. -/
theorem exists_span_of_mem_phrases {policy : TermPolicy} {text phrase : String}
    (h : phrase ∈ (parse policy text).phrases) :
    ∃ span, '"' ∉ span ∧ phrase = String.ofList (normalPhrase span) := by
  rw [parse_phrases, extractPhrases_eq] at h
  obtain ⟨_, kept, rfl⟩ := List.mem_map.1 h
  obtain ⟨span, belongs, rfl⟩ := List.mem_map.1 (List.mem_filter.1 kept).1
  exact ⟨span, not_mem_of_mem_spans belongs, rfl⟩

/-- Every term comes from a word outside of the spans that is no exclusion. -/
theorem exists_word_of_mem_terms {policy : TermPolicy} {text term : String}
    (h : term ∈ (parse policy text).terms) :
    ∃ word ∈ words (extractPhrases text.toList).2, excludes word = false ∧
      policy.admits term = true ∧ term = String.ofList (normalTerm word) := by
  rw [parse_terms] at h
  obtain ⟨inText, admitted⟩ := List.mem_filter.1 h
  obtain ⟨word, kept, rfl⟩ := List.mem_map.1 inText
  obtain ⟨belongs, plain⟩ := List.mem_filter.1 kept
  exact ⟨word, belongs, by simpa using plain, admitted, rfl⟩

/-- Every exclusion comes from a word outside of the spans, after its hyphen. -/
theorem exists_word_of_mem_exclusions {policy : TermPolicy} {text term : String}
    (h : term ∈ (parse policy text).exclusions) :
    ∃ word ∈ words (extractPhrases text.toList).2, isExclusion (normalTerm (word.drop 1)) = true ∧
      term = String.ofList (normalTerm (word.drop 1)) := by
  rw [parse_exclusions] at h
  obtain ⟨_, kept, rfl⟩ := List.mem_map.1 h
  obtain ⟨inText, keeps⟩ := List.mem_filter.1 kept
  obtain ⟨word, excluding, rfl⟩ := List.mem_map.1 inText
  exact ⟨word, (List.mem_filter.1 excluding).1, keeps, rfl⟩

/-- In a text with an even number of quotes no quote is left outside of the spans. -/
theorem not_mem_extractPhrases {text : List Char} (paired : Even (text.count '"')) :
    '"' ∉ (extractPhrases text).2 := by
  fun_induction extractPhrases text with
  | case1 => simp
  | case2 rest inside after found phrases left walk phrase ih =>
    rw [even_count_of_upToQuote? found] at paired
    rw [walk] at ih
    simpa using ih paired
  | case3 rest missing phrases left walk ih =>
    exact absurd paired (not_even_count_of_upToQuote? missing)
  | case4 c rest notQuote phrases left walk ih =>
    rw [List.count_cons_of_ne notQuote] at paired
    rw [walk] at ih
    simpa [Ne.symm notQuote] using ih paired

/-- A word that is no exclusion starts with a hyphen only if it is one. -/
theorem eq_hyphen_of_head? {word : List Char} (plain : excludes word = false)
    (hyphen : word.head? = some '-') : word = ['-'] := by
  match word, hyphen with
  | [_], hyphen => rw [Option.some.inj hyphen]
  | c :: d :: rest, hyphen => simp [excludes, Option.some.inj hyphen] at plain

/-! ### The invariant -/

/-- Whatever the text, the entries of its query are clean. -/
theorem isClean_parse (policy : TermPolicy) (text : String) :
    IsClean policy (parse policy text) where
  needle entry belongs := by
    have nonempty := ne_empty_of_mem_entries policy text entry belongs
    rw [entries, List.mem_append, List.mem_append] at belongs
    rcases belongs with (phrase | term) | exclusion
    · obtain ⟨span, noQuote, rfl⟩ := exists_span_of_mem_phrases phrase
      exact isNeedle_normalPhrase nonempty noQuote
    · obtain ⟨word, -, -, -, rfl⟩ := exists_word_of_mem_terms term
      exact isNeedle_normalTerm nonempty
    · obtain ⟨word, -, -, rfl⟩ := exists_word_of_mem_exclusions exclusion
      exact isNeedle_normalTerm nonempty
  solid term belongs := by
    rcases List.mem_append.1 belongs with plain | exclusion
    · obtain ⟨word, inText, -, -, rfl⟩ := exists_word_of_mem_terms plain
      rw [String.toList_ofList]
      exact solid_normalTerm (mem_words inText).2
    · obtain ⟨word, inText, -, rfl⟩ := exists_word_of_mem_exclusions exclusion
      rw [String.toList_ofList]
      exact solid_normalTerm fun c inside => (mem_words inText).2 c (List.mem_of_mem_drop inside)
  admitted term belongs := by
    obtain ⟨-, -, -, admitted, -⟩ := exists_word_of_mem_terms belongs
    exact ⟨admitted, TermPolicy.two_le_length_of_admits admitted⟩
  notHyphen term belongs := by
    obtain ⟨word, -, keeps, rfl⟩ := exists_word_of_mem_exclusions belongs
    -- A mere hyphen is not worth keeping, so it was dropped.
    intro hyphen
    have spelled := congrArg String.toList hyphen
    rw [String.toList_ofList] at spelled
    rw [spelled] at keeps
    exact absurd keeps (by decide)

/-- With paired quotes no quote stands before a hyphen, and so no term starts with one. -/
theorem head?_ne_of_mem_terms {policy : TermPolicy} {text term : String}
    (paired : Even (text.toList.count '"')) (h : term ∈ (parse policy text).terms) :
    term.toList.head? ≠ some '-' := by
  intro hyphen
  obtain ⟨word, inText, plain, admitted, rfl⟩ := exists_word_of_mem_terms h
  have noQuote : '"' ∉ word := fun belongs =>
    not_mem_extractPhrases paired (mem_of_mem_words inText belongs)
  rw [String.toList_ofList, normalTerm_of_not_mem (mem_words inText).2 noQuote,
    head?_lowercase_of_isSeparator isSeparator_hyphen] at hyphen
  obtain rfl := eq_hyphen_of_head? plain hyphen
  have long := TermPolicy.two_le_length_of_admits admitted
  exact absurd long (by decide)

/-- Every query that is read from a text is clean. If the text has an even number of quotes, no term
starts with a hyphen. -/
theorem parse_entries_clean (policy : TermPolicy) (text : String) :
    IsClean policy (parse policy text) ∧
      (Even (text.toList.count '"') →
        ∀ term ∈ (parse policy text).terms, term.toList.head? ≠ some '-') := by
  refine ⟨isClean_parse policy text, ?_⟩
  intro paired term belongs
  exact head?_ne_of_mem_terms paired belongs

/-- A phrase with blanks at its ends, an exclusion, a mere hyphen, and a hyphen inside of a word. -/
theorem parse_entries_clean_hyphens :
    let policy : TermPolicy := ⟨["t2"], ⟨.empty⟩⟩
    let text := "\" Vue Mer \" -CAVE T2 - Saint-Denis"
    Even (text.toList.count '"') ∧ IsClean policy (parse policy text) ∧
      ∀ term ∈ (parse policy text).terms, term.toList.head? ≠ some '-' := by
  intro policy text
  have paired : Even (text.toList.count '"') := by decide
  obtain ⟨clean, plain⟩ := parse_entries_clean policy text
  exact ⟨paired, clean, plain paired⟩

-- A quote without a partner hides the hyphen behind it.
example : (parse ⟨[], ⟨.empty⟩⟩ "\"-cave").terms = ["-cave"] := by decide +kernel

end EstateSearch.Query
