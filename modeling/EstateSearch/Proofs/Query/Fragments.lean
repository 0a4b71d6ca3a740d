import EstateSearch.Proofs.Query.Join
import EstateSearch.Proofs.Text.Lowercase
import EstateSearch.Proofs.Text.Trim

/-!
# Queries of one fragment

What a text asks for that is one quotation or one word. A quotation is a phrase, if it is not blank,
and nothing else (`parse_quotation`). A word is an exclusion if it starts with a hyphen and goes on,
and a term otherwise, if it is kept at all (`parse_word`).
-/

set_option autoImplicit false

namespace EstateSearch.Query

open Text

/-! ### Quotations -/

theorem normalPhrase_eq_nil {text : List Char} :
    normalPhrase text = [] ↔ isBlankText text = true := by
  rw [normalPhrase, lowercase_eq_nil, trim_eq_nil_iff]

/-- A quotation leaves a space behind, and a phrase unless it is blank. -/
theorem extractPhrases_quotation {inside : List Char} (h : '"' ∉ inside) :
    extractPhrases ('"' :: (inside ++ ['"'])) =
      (if isBlankText inside then [] else [normalPhrase inside], [' ']) := by
  have cut : ('"' :: (inside ++ ['"'])).splitOn '"' = [[], inside, []] := by
    rw [List.splitOn_cons_eq_if_modifyHead, if_pos (by simp),
      List.splitOn_append_cons_self_of_not_mem h, List.splitOn_nil]
  rw [extractPhrases_eq, cut, spans_cons, spans_singleton, outside_cons, outside_singleton,
    List.map_singleton, List.nil_append]
  congr 1
  split
  · rename_i blank
    rw [normalPhrase_eq_nil.2 blank]
    rfl
  · rename_i solid
    have nonempty := mt normalPhrase_eq_nil.1 solid
    exact List.filter_cons_of_pos (by simpa using nonempty)

/-- A quotation asks for its phrase, if it is not blank. -/
theorem parse_quotation (policy : TermPolicy) {inside : String} (h : '"' ∉ inside.toList) :
    let query := parse policy ("\"" ++ inside ++ "\"")
    query.phrases = (if isBlankText inside.toList then []
        else [String.ofList (normalPhrase inside.toList)]) ∧
      query.terms = [] ∧ query.exclusions = [] := by
  have spelled : ("\"" ++ inside ++ "\"").toList = '"' :: (inside.toList ++ ['"']) := by simp
  have noWord : words [' '] = [] := by decide
  simp only [parse_phrases, parse_terms, parse_exclusions, spelled, extractPhrases_quotation h,
    noWord]
  refine ⟨?_, rfl, rfl⟩
  split <;> rfl

/-! ### Words -/

/-- A text that is not empty and has neither blanks nor quotes. -/
structure IsWord (text : String) : Prop where
  nonempty : text ≠ ""
  noQuote : '"' ∉ text.toList
  solid : ∀ c ∈ text.toList, isBlank c = false

instance (text : String) : Decidable (IsWord text) :=
  decidable_of_iff
    (text ≠ "" ∧ '"' ∉ text.toList ∧ text.toList.all (fun c => !isBlank c) = true)
    ⟨fun ⟨nonempty, noQuote, solid⟩ => ⟨nonempty, noQuote, by simpa using solid⟩,
      fun word => ⟨word.nonempty, word.noQuote, by simpa using word.solid⟩⟩

theorem IsWord.hyphen_append {word : String} (h : IsWord word) : IsWord ("-" ++ word) where
  nonempty := by simp
  noQuote := by simpa using h.noQuote
  solid := by
    have hyphen : isBlank '-' = false := by decide
    simpa [hyphen] using h.solid

theorem IsWord.excludes_hyphen_append {word : String} (h : IsWord word) :
    excludes ("-" ++ word).toList = true := by
  have nonempty := mt String.toList_eq_nil_iff.1 h.nonempty
  have spelled : ("-" ++ word).toList = '-' :: word.toList := by simp
  rw [spelled, excludes_hyphen_cons]
  simpa using nonempty

theorem IsWord.words_eq {word : String} (h : IsWord word) : words word.toList = [word.toList] := by
  have nonempty := mt String.toList_eq_nil_iff.1 h.nonempty
  have detached : IsDetached [] := by simp [IsDetached]
  have first := words_append nonempty h.solid detached
  rwa [List.append_nil, words_nil] at first

theorem IsWord.extractPhrases_eq {word : String} (h : IsWord word) :
    extractPhrases word.toList = ([], word.toList) := by
  rw [Query.extractPhrases_eq, List.splitOn_eq_singleton h.noQuote, spans_singleton,
    outside_singleton]
  rfl

/-- A word is a term or an exclusion. -/
theorem parse_word (policy : TermPolicy) {word : String} (h : IsWord word) :
    let query := parse policy word
    query.phrases = [] ∧ (excludes word.toList = true → query.terms = []) ∧
      (excludes word.toList = false → query.exclusions = []) := by
  simp only [parse_phrases, parse_terms, parse_exclusions, h.extractPhrases_eq, h.words_eq]
  refine ⟨rfl, ?_, ?_⟩
  · intro excluding
    simp [excluding]
  · intro plain
    simp [plain]

end EstateSearch.Query
