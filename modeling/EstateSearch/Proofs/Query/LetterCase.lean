import EstateSearch.Proofs.Query.Entries

/-!
# Queries in lowercase

A text and its lowercase ask for the same (`sameEntries_parse_lower`), if the quotes of the text
come in pairs. Both walks over the text cut it at separators, and these stay where they are.

A quote without a partner is taken out of its word before the word is lowercased. A capital sigma in
front of it then sees the letters behind it, and in the lowercase text it is too late for that.
-/

set_option autoImplicit false

namespace EstateSearch.Query

open Text

/-- The two queries look for the same, whatever was typed. -/
structure SameEntries (query other : Query) : Prop where
  phrases : query.phrases = other.phrases
  terms : query.terms = other.terms
  exclusions : query.exclusions = other.exclusions

theorem SameEntries.symm {query other : Query} (same : SameEntries query other) :
    SameEntries other query :=
  ⟨same.phrases.symm, same.terms.symm, same.exclusions.symm⟩

/-! ### The first walk -/

theorem spans_map {f : List Char → List Char} (h : f [] = []) (parts : List (List Char)) :
    spans (parts.map f) = (spans parts).map f := by
  simp only [spans, List.length_map, List.map_map]
  refine List.map_congr_left fun k _ => ?_
  have mapped := List.getD_map (l := parts) (d := []) (n := 2 * k + 1) f
  rwa [h] at mapped

/-- Lowercase can be taken piece by piece, as a space separates the pieces. -/
theorem outside_map_lowercase {parts : List (List Char)} (nonempty : parts ≠ []) :
    outside (parts.map lowercase) = lowercase (outside parts) := by
  have space : isSeparator ' ' = true := by decide
  match parts, nonempty with
  | [last], _ => simp [outside_singleton]
  | [first, last], _ =>
    simp only [List.map_cons, List.map_nil, outside_pair]
    exact (lowercase_append_separator isSeparator_quote first last).symm
  | first :: span :: next :: parts, _ =>
    have later : outside ((next :: parts).map lowercase) = lowercase (outside (next :: parts)) :=
      outside_map_lowercase (by simp)
    rw [outside_cons, lowercase_append_separator space, ← later]
    simp only [List.map_cons, outside_cons]

theorem normalPhrase_lowercase (span : List Char) :
    normalPhrase (lowercase span) = normalPhrase span := by
  rw [normalPhrase, trim_lowercase, lowercase_lowercase, normalPhrase]

/-- The phrases of a lowercase text are those of the text, and what is left is in lowercase. -/
theorem extractPhrases_lowercase (text : List Char) :
    extractPhrases (lowercase text) =
      ((extractPhrases text).1, lowercase (extractPhrases text).2) := by
  have cut : (lowercase text).splitOn '"' = (text.splitOn '"').map lowercase := by
    refine splitOnP_lowercase (fun c quote => ?_) text
    rw [beq_iff_eq.1 quote]
    exact isSeparator_quote
  have nothing : lowercase [] = [] := rfl
  rw [extractPhrases_eq, extractPhrases_eq, cut, spans_map nothing,
    outside_map_lowercase (List.splitOn_ne_nil '"' text), List.map_map]
  simp only [Function.comp_def, normalPhrase_lowercase]

/-! ### The second walk -/

theorem excludes_lowercase (word : List Char) : excludes (lowercase word) = excludes word := by
  by_cases hyphen : word.head? = some '-'
  · obtain ⟨rest, rfl⟩ := List.head?_eq_some_iff.1 hyphen
    rw [lowercase_cons_separator isSeparator_hyphen, excludes_hyphen_cons, excludes_hyphen_cons,
      Bool.eq_iff_iff]
    simp [lowercase_eq_nil]
  · have stays : (lowercase word).head? ≠ some '-' :=
      fun first => hyphen ((head?_lowercase_of_isSeparator isSeparator_hyphen).1 first)
    rw [excludes_eq_false hyphen, excludes_eq_false stays]

theorem drop_one_lowercase {word : List Char} (h : excludes word = true) :
    (lowercase word).drop 1 = lowercase (word.drop 1) := by
  have hyphen : word.head? = some '-' := by
    by_contra other
    rw [excludes_eq_false other] at h
    cases h
  obtain ⟨rest, rfl⟩ := List.head?_eq_some_iff.1 hyphen
  rw [lowercase_cons_separator isSeparator_hyphen]
  rfl

/-- Lowercase of a word may be taken before or after it is brought to normal form. -/
theorem normalTerm_lowercase {word : List Char} (solid : ∀ c ∈ word, isBlank c = false)
    (noQuote : '"' ∉ word) : normalTerm (lowercase word) = normalTerm word := by
  have noQuote' : '"' ∉ lowercase word := by
    rwa [mem_lowercase_of_isSeparator isSeparator_quote]
  rw [normalTerm_of_not_mem (solid_lowercase solid) noQuote', lowercase_lowercase,
    normalTerm_of_not_mem solid noQuote]

/-! ### The query -/

variable {policy : TermPolicy} {text : String}

/-- The words of a text with paired quotes have neither blanks nor quotes. -/
theorem solid_and_not_mem_of_mem_words (paired : Even (text.toList.count '"')) {word : List Char}
    (h : word ∈ words (extractPhrases text.toList).2) :
    (∀ c ∈ word, isBlank c = false) ∧ '"' ∉ word :=
  ⟨(mem_words h).2, fun belongs => not_mem_extractPhrases paired (mem_of_mem_words h belongs)⟩

/-- Phrases need no paired quotes, as spans lie between two quotes in any case. -/
theorem parse_phrases_lower :
    (parse policy (lower text)).phrases = (parse policy text).phrases := by
  rw [parse_phrases, parse_phrases, lower, String.toList_ofList, extractPhrases_lowercase]

/-- Terms do not change with the letter case of a text. A quote without a partner might be taken out
of the inside of a word, which may change where a final sigma stands. -/
theorem parse_terms_lower (paired : Even (text.toList.count '"')) :
    (parse policy (lower text)).terms = (parse policy text).terms := by
  have plain (word : List Char) : (!excludes (lowercase word)) = !excludes word := by
    rw [excludes_lowercase]
  rw [parse_terms, parse_terms, lower, String.toList_ofList, extractPhrases_lowercase,
    words_lowercase, filter_map_lowercase plain, List.map_map]
  refine congrArg _ (List.map_congr_left fun word kept => ?_)
  obtain ⟨solid, noQuote⟩ := solid_and_not_mem_of_mem_words paired (List.mem_filter.1 kept).1
  rw [Function.comp, normalTerm_lowercase solid noQuote]

theorem parse_exclusions_lower (paired : Even (text.toList.count '"')) :
    (parse policy (lower text)).exclusions = (parse policy text).exclusions := by
  rw [parse_exclusions, parse_exclusions, lower, String.toList_ofList, extractPhrases_lowercase,
    words_lowercase, filter_map_lowercase excludes_lowercase, List.map_map]
  refine congrArg _ (congrArg _ (List.map_congr_left fun word kept => ?_))
  obtain ⟨inText, excluding⟩ := List.mem_filter.1 kept
  obtain ⟨solid, noQuote⟩ := solid_and_not_mem_of_mem_words paired inText
  rw [Function.comp, drop_one_lowercase excluding, normalTerm_lowercase]
  · exact fun c inside => solid c (List.mem_of_mem_drop inside)
  · exact fun inside => noQuote (List.mem_of_mem_drop inside)

/-- A text with paired quotes and its lowercase ask for the same. -/
theorem sameEntries_parse_lower (policy : TermPolicy) (paired : Even (text.toList.count '"')) :
    SameEntries (parse policy (lower text)) (parse policy text) :=
  ⟨parse_phrases_lower, parse_terms_lower paired, parse_exclusions_lower paired⟩

end EstateSearch.Query
