import EstateSearch.Proofs.Text.Trim
import EstateSearch.Proofs.Text.Words
import EstateSearch.Query.Parser

/-!
# The grammar of queries

The parser walks over a text twice, looks ahead for quotes and puts a rest together. This module
says what comes out without a walk: the text is cut at all its quotes at once, every second piece
is a span between quotes, and the words of the other pieces are terms and exclusions
(`parse_eq_grammar`).

* `spans` and `outside` speak of the pieces by their numbers. `extractPhrases_eq` follows the walk:
  a quote with a partner takes the next two pieces, and one without takes none.
* `extractExclusions_eq` follows the second walk word by word. What is left of the text has the
  other words, and no two words grow together where one is taken out.
-/

set_option autoImplicit false

namespace EstateSearch.Query

open Text

/-! ### The grammar -/

/-- Every second piece, if another one follows. -/
def spans (parts : List (List Char)) : List (List Char) :=
  (List.range ((parts.length - 1) / 2)).map fun k => parts.getD (2 * k + 1) []

def beforeSpans (parts : List (List Char)) : List (List Char) :=
  (List.range ((parts.length - 1) / 2)).map fun k => parts.getD (2 * k) []

/-- The end of the text outside the spans. After an odd number of quotes the last quote has no
partner and stays. -/
def lastOutside (parts : List (List Char)) : List Char :=
  let quotes := parts.length - 1
  if quotes % 2 = 0 then parts.getD quotes []
  else parts.getD (quotes - 1) [] ++ '"' :: parts.getD quotes []

/-- The text outside the spans, with a space for every span. -/
def outside (parts : List (List Char)) : List Char :=
  [' '].intercalate (beforeSpans parts ++ [lastOutside parts])

/-- Is the word an exclusion? It starts with a hyphen and has more than one character. -/
def excludes (word : List Char) : Bool :=
  word.head? == some '-' && decide (1 < word.length)

/-- The query that the pieces between the quotes of a text write. -/
def grammar (policy : TermPolicy) (text : String) : Query :=
  let parts := text.toList.splitOn '"'
  let plain (word : List Char) : List Char := lowercase (word.filter (· != '"'))
  { phrases := (((spans parts).map fun span => lowercase (trim span)).filter fun phrase =>
      !phrase.isEmpty).map String.ofList
    terms := (((words (outside parts)).filter fun word => !excludes word).map fun word =>
      String.ofList (plain word)).filter policy.admits
    exclusions := ((((words (outside parts)).filter excludes).map fun word =>
      plain (word.drop 1)).filter fun term => !term.isEmpty && term != ['-']).map String.ofList
    typed := text }

/-! ### Spans -/

theorem spans_singleton (last : List Char) : spans [last] = [] := by
  simp [spans]

theorem spans_pair (first last : List Char) : spans [first, last] = [] := by
  simp [spans]

/-- Two pieces at a time are taken off the front, of which the second is a span. -/
theorem spans_cons (first span next : List Char) (parts : List (List Char)) :
    spans (first :: span :: next :: parts) = span :: spans (next :: parts) := by
  have count : (parts.length + 1 + 1 + 1 - 1) / 2 = (parts.length + 1 - 1) / 2 + 1 := by omega
  simp only [spans, List.length_cons, count, List.range_succ_eq_map, List.map_cons, List.map_map]
  refine congrArg _ (List.map_congr_left fun k _ => ?_)
  rfl

theorem beforeSpans_cons (first span next : List Char) (parts : List (List Char)) :
    beforeSpans (first :: span :: next :: parts) = first :: beforeSpans (next :: parts) := by
  have count : (parts.length + 1 + 1 + 1 - 1) / 2 = (parts.length + 1 - 1) / 2 + 1 := by omega
  simp only [beforeSpans, List.length_cons, count, List.range_succ_eq_map, List.map_cons,
    List.map_map]
  refine congrArg _ (List.map_congr_left fun k _ => ?_)
  rfl

theorem outside_singleton (last : List Char) : outside [last] = last := by
  simp [outside, beforeSpans, lastOutside]

theorem outside_pair (first last : List Char) : outside [first, last] = first ++ '"' :: last := by
  simp [outside, beforeSpans, lastOutside]

theorem lastOutside_cons (first span next : List Char) (parts : List (List Char)) :
    lastOutside (first :: span :: next :: parts) = lastOutside (next :: parts) := by
  have quotes : parts.length + 1 + 1 + 1 - 1 = parts.length + 2 := by omega
  have parity : (parts.length + 2) % 2 = parts.length % 2 := by omega
  simp only [lastOutside, List.length_cons, quotes, parity, Nat.add_sub_cancel]
  split
  · rfl
  · have positive : 0 < parts.length := by omega
    obtain ⟨before, length⟩ : ∃ before, parts.length = before + 1 := ⟨parts.length - 1, by omega⟩
    rw [length]
    rfl

theorem outside_cons (first span next : List Char) (parts : List (List Char)) :
    outside (first :: span :: next :: parts) = first ++ ' ' :: outside (next :: parts) := by
  rw [outside, beforeSpans_cons, lastOutside_cons, List.cons_append,
    List.intercalate_cons_of_ne_nil (by simp), List.append_assoc]
  rfl

example : outside [['a'], ['b'], ['c'], ['d']] = ['a', ' ', 'c', '"', 'd'] := by decide

theorem spans_modifyHead (c : Char) {parts : List (List Char)} :
    spans (parts.modifyHead (c :: ·)) = spans parts := by
  match parts with
  | [] => rfl
  | [last] => simp [spans_singleton]
  | [first, last] => simp [spans_pair]
  | first :: span :: next :: parts => simp [spans_cons]

theorem outside_modifyHead (c : Char) {parts : List (List Char)} (nonempty : parts ≠ []) :
    outside (parts.modifyHead (c :: ·)) = c :: outside parts := by
  match parts, nonempty with
  | [last], _ => simp [outside_singleton]
  | [first, last], _ => simp [outside_pair]
  | first :: span :: next :: parts, _ => simp [outside_cons]

/-! ### The first walk -/

/-- Looking ahead finds the first quote. -/
theorem split_of_upToQuote? {text inside after : List Char}
    (h : upToQuote? text = some (inside, after)) : text = inside ++ '"' :: after ∧ '"' ∉ inside := by
  induction text generalizing inside with
  | nil => cases h
  | cons c rest ih =>
    rw [upToQuote?] at h
    split at h
    · rename_i isQuote
      obtain ⟨rfl, rfl⟩ : [] = inside ∧ rest = after := by simpa using h
      simp [isQuote]
    · rename_i notQuote
      split at h
      · rename_i inside' after' found
        obtain ⟨rfl, rfl⟩ : c :: inside' = inside ∧ after' = after := by simpa using h
        obtain ⟨split, noQuote⟩ := ih found
        exact ⟨by rw [split, List.cons_append], by simp [noQuote, Ne.symm notQuote]⟩
      · cases h

/-- The search for a quote ends without one only if there is none. -/
theorem not_mem_of_upToQuote? {text : List Char} (h : upToQuote? text = none) : '"' ∉ text := by
  induction text with
  | nil => simp
  | cons c rest ih =>
    rw [upToQuote?] at h
    split at h
    · cases h
    · rename_i notQuote
      split at h
      · cases h
      · rename_i missing
        simp [ih missing, Ne.symm notQuote]

/-- The walk over the quotes finds the spans and leaves the rest of the text. -/
theorem extractPhrases_eq (text : List Char) :
    extractPhrases text =
      (((spans (text.splitOn '"')).map normalPhrase).filter (!·.isEmpty),
        outside (text.splitOn '"')) := by
  fun_induction extractPhrases text with
  | case1 => rw [List.splitOn_nil, spans_singleton, outside_singleton, List.map_nil, List.filter_nil]
  | case2 rest inside after found phrases left walk phrase ih =>
    obtain ⟨split, noQuote⟩ := split_of_upToQuote? found
    obtain ⟨next, parts, cut⟩ := List.exists_cons_of_ne_nil (List.splitOn_ne_nil '"' after)
    have pieces : ('"' :: rest).splitOn '"' = [] :: inside :: next :: parts := by
      rw [split, List.splitOn_cons_eq_if_modifyHead, if_pos (by simp),
        List.splitOn_append_cons_self_of_not_mem noQuote, cut]
    obtain ⟨rfl, rfl⟩ := Prod.mk.inj (walk.symm.trans ih)
    rw [pieces, spans_cons, outside_cons, cut, List.map_cons, List.filter_cons, List.nil_append]
    -- The reader decides by the phrase whether to keep it, the grammar filters afterwards.
    change (if (normalPhrase inside).isEmpty = true then _ else normalPhrase inside :: _, _) = _
    cases (normalPhrase inside).isEmpty <;> rfl
  | case3 rest missing phrases left walk ih =>
    have single := List.splitOn_eq_singleton (not_mem_of_upToQuote? missing)
    have pieces : ('"' :: rest).splitOn '"' = [[], rest] := by
      rw [List.splitOn_cons_eq_if_modifyHead, if_pos (by simp), single]
    obtain ⟨rfl, rfl⟩ := Prod.mk.inj (walk.symm.trans ih)
    rw [pieces, single, spans_singleton, spans_pair, outside_singleton, outside_pair,
      List.nil_append]
  | case4 c rest notQuote phrases left walk ih =>
    have pieces : (c :: rest).splitOn '"' = (rest.splitOn '"').modifyHead (c :: ·) := by
      rw [List.splitOn_cons_eq_if_modifyHead, if_neg (by simpa using notQuote)]
    obtain ⟨rfl, rfl⟩ := Prod.mk.inj (walk.symm.trans ih)
    rw [pieces, spans_modifyHead, outside_modifyHead c (List.splitOn_ne_nil '"' rest)]

/-! ### The second walk -/

/-- The reader's test for exclusions is that of the grammar. -/
theorem excluded?_eq (word : List Char) :
    excluded? word = if excludes word then some (word.drop 1) else none := by
  match word with
  | [] => rfl
  | [c] => simp [excluded?, excludes]
  | c :: d :: rest =>
    by_cases hyphen : c = '-'
    · simp [excluded?, excludes, hyphen]
    · simp [excluded?, excludes, hyphen]

theorem excludes_hyphen_cons (rest : List Char) : excludes ('-' :: rest) = !rest.isEmpty := by
  cases rest <;> simp [excludes]

theorem excludes_eq_false {word : List Char} (h : word.head? ≠ some '-') :
    excludes word = false := by
  simp [excludes, h]

theorem isBlank_of_mem_takeWhile (text : List Char) :
    ∀ c ∈ text.takeWhile isBlank, isBlank c = true :=
  List.all_eq_true.1 List.all_takeWhile

theorem firstWord_solid (text : List Char) : ∀ c ∈ firstWord text, isBlank c = false := by
  have solid : (firstWord text).all (fun c => !isBlank c) = true := List.all_takeWhile
  simpa using solid

theorem isDetached_afterFirstWord (text : List Char) : IsDetached (afterFirstWord text) := by
  intro c first
  have stop := List.head?_dropWhile_not (fun c => !isBlank c) (text.dropWhile isBlank)
  rw [← afterFirstWord, Option.mem_def.1 first] at stop
  simpa using stop

/-- A text without a first word has nothing but blanks. -/
theorem takeWhile_of_firstWord {text : List Char} (h : firstWord text = []) :
    text.takeWhile isBlank = text := by
  have split := List.takeWhile_append_dropWhile (p := isBlank) (l := text)
  cases rest : text.dropWhile isBlank with
  | nil => rwa [rest, List.append_nil] at split
  | cons c others =>
    have stop := List.head?_dropWhile_not isBlank text
    have solid : isBlank c = false := by simpa [rest] using stop
    rw [firstWord, rest, List.takeWhile_cons_of_pos (by simp [solid])] at h
    cases h

theorem words_of_firstWord_eq_nil {text : List Char} (h : firstWord text = []) :
    words text = [] := by
  have blanks := words_append_of_blanks (isBlank_of_mem_takeWhile text) []
  rwa [List.append_nil, takeWhile_of_firstWord h, words_nil] at blanks

/-- Taking words off one by one gives the words that the blanks bound. -/
theorem words_eq_cons {text : List Char} (h : firstWord text ≠ []) :
    words text = firstWord text :: words (afterFirstWord text) := by
  calc words text
      = words (text.takeWhile isBlank ++ (firstWord text ++ afterFirstWord text)) :=
        congrArg words (firstWord_split text)
    _ = words (firstWord text ++ afterFirstWord text) :=
        words_append_of_blanks (isBlank_of_mem_takeWhile text) _
    _ = firstWord text :: words (afterFirstWord text) :=
        words_append h (firstWord_solid text) (isDetached_afterFirstWord text)

/-- What is left of a text starts as the text does, if that is with a blank. -/
theorem isDetached_extractExclusions {text : List Char} (h : IsDetached text) :
    IsDetached (extractExclusions text).2 := by
  cases text with
  | nil => simp [extractExclusions, firstWord, IsDetached]
  | cons c text =>
    have blank : isBlank c = true := h c (by simp)
    rw [extractExclusions, List.takeWhile_cons_of_pos blank]
    split
    · simpa [IsDetached] using blank
    · cases excluded? (firstWord (c :: text)) <;> simpa [IsDetached] using blank

/-- The walk over the words takes the exclusions out and leaves the other words. -/
theorem extractExclusions_eq (text : List Char) :
    (extractExclusions text).1 =
        (((words text).filter excludes).map fun word => normalTerm (word.drop 1)).filter
          isExclusion ∧
      words (extractExclusions text).2 = (words text).filter fun word => !excludes word := by
  fun_induction extractExclusions text with
  | case1 text blanks none =>
    have noWord := words_of_firstWord_eq_nil none
    rw [noWord]
    refine ⟨rfl, ?_⟩
    change words (text.takeWhile isBlank) = []
    rw [takeWhile_of_firstWord none, noWord]
  | case2 text blanks some exclusions left walk suffix found term ih =>
    rw [excluded?_eq] at found
    split at found
    · rename_i excluding
      obtain rfl : (firstWord text).drop 1 = suffix := by simpa using found
      rw [walk] at ih
      rw [words_eq_cons some, List.filter_cons_of_pos excluding, List.map_cons, List.filter_cons,
        List.filter_cons_of_neg (by simp [excluding])]
      exact ⟨by rw [← ih.1], by rw [words_append_of_blanks (isBlank_of_mem_takeWhile text), ih.2]⟩
    · cases found
  | case3 text blanks some exclusions left walk plain ih =>
    rw [excluded?_eq] at plain
    split at plain
    · cases plain
    · rename_i kept
      -- What is left after the word starts with a blank, so the word is not glued to the next one.
      have detached := isDetached_extractExclusions (isDetached_afterFirstWord text)
      rw [walk] at ih detached
      rw [words_eq_cons some, List.filter_cons_of_neg kept,
        List.filter_cons_of_pos (by simpa using kept)]
      refine ⟨ih.1, ?_⟩
      rw [List.append_assoc, words_append_of_blanks (isBlank_of_mem_takeWhile text),
        words_append some (firstWord_solid text) detached, ih.2]

/-! ### The query -/

/-- No blank is left in a word without its quotes. -/
theorem normalTerm_of_solid {word : List Char} (solid : ∀ c ∈ word, isBlank c = false) :
    normalTerm word = lowercase (word.filter (· != '"')) := by
  have trimmed : IsTrimmed (word.filter (· != '"')) :=
    isTrimmed_of_solid fun c belongs => solid c (List.mem_filter.1 belongs).1
  rw [normalTerm, trimmed.trim_eq]

/-- The two walks find the query of the grammar, also in a blank text. -/
theorem walks_eq_grammar (policy : TermPolicy) (text : String) :
    let (phrases, left) := extractPhrases text.toList
    let (exclusions, rest) := extractExclusions left
    Query.mk (phrases.map String.ofList)
      (((words rest).map fun word => String.ofList (normalTerm word)).filter policy.admits)
      (exclusions.map String.ofList) text = grammar policy text := by
  rw [extractPhrases_eq]
  obtain ⟨exclusions, terms⟩ := extractExclusions_eq (outside (text.toList.splitOn '"'))
  have plainTerm : ∀ word ∈ words (outside (text.toList.splitOn '"')),
      normalTerm word = lowercase (word.filter (· != '"')) :=
    fun word belongs => normalTerm_of_solid (mem_words belongs).2
  have plainExclusion : ∀ word ∈ words (outside (text.toList.splitOn '"')),
      normalTerm (word.drop 1) = lowercase ((word.drop 1).filter (· != '"')) :=
    fun word belongs => normalTerm_of_solid fun c inside =>
      (mem_words belongs).2 c (List.mem_of_mem_drop inside)
  dsimp only
  rw [exclusions, terms, grammar]
  congr 1
  · congr 1
    refine List.map_congr_left fun word belongs => ?_
    rw [plainTerm word (List.mem_filter.1 belongs).1]
  · refine congrArg _ (congrArg _ (List.map_congr_left fun word belongs => ?_))
    exact plainExclusion word (List.mem_filter.1 belongs).1

theorem words_of_blank {text : List Char} (h : isBlankText text = true) : words text = [] := by
  have blanks := words_append_of_blanks (List.all_eq_true.1 h) []
  rwa [List.append_nil, words_nil] at blanks

/-- A blank text asks for nothing. -/
theorem grammar_of_blank (policy : TermPolicy) {text : String}
    (h : isBlankText text.toList = true) : grammar policy text = ⟨[], [], [], text⟩ := by
  have noQuote : '"' ∉ text.toList := by
    intro belongs
    exact absurd (List.all_eq_true.1 h '"' belongs) (by decide)
  rw [grammar, List.splitOn_eq_singleton noQuote, spans_singleton, outside_singleton,
    words_of_blank h]
  rfl

/-- The query of a text is the one that its pieces between the quotes write. -/
theorem parse_eq_grammar (policy : TermPolicy) (text : String) :
    parse policy text = grammar policy text := by
  rw [parse]
  split
  · rename_i blank
    exact (grammar_of_blank policy blank).symm
  · exact walks_eq_grammar policy text

/-! ### Entries are never empty -/

/-- All that a query looks for. -/
def entries (query : Query) : List String :=
  query.phrases ++ query.terms ++ query.exclusions

theorem ofList_ne_empty {text : List Char} (h : (!text.isEmpty) = true) :
    String.ofList text ≠ "" := by
  intro empty
  have noText := congrArg String.toList empty
  rw [String.toList_ofList] at noText
  simp [noText] at h

/-- Nothing that is looked for is the empty text, which would be found everywhere. -/
theorem ne_empty_of_mem_entries (policy : TermPolicy) (text : String) :
    ∀ entry ∈ entries (parse policy text), entry ≠ "" := by
  intro entry belongs
  rw [parse] at belongs
  split at belongs
  · cases belongs
  · have inGrammar : entry ∈ entries (grammar policy text) :=
      walks_eq_grammar policy text ▸ belongs
    rw [entries, grammar, List.mem_append, List.mem_append] at inGrammar
    rcases inGrammar with (phrase | term) | exclusion
    · obtain ⟨phrase, kept, rfl⟩ := List.mem_map.1 phrase
      exact ofList_ne_empty (List.mem_filter.1 kept).2
    · rintro rfl
      exact absurd (List.mem_filter.1 term).2 (by simp [TermPolicy.admits])
    · obtain ⟨term, kept, rfl⟩ := List.mem_map.1 exclusion
      exact ofList_ne_empty (Bool.and_eq_true_iff.1 (List.mem_filter.1 kept).2).1

end EstateSearch.Query
