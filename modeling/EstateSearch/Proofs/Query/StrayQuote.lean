import EstateSearch.Proofs.Query.LetterCase
import Mathlib.Algebra.Ring.Parity

/-!
# A quote without a partner

If the number of quotes in a text is odd, the last one has no partner. It stays in its word until
the word is made a term or an exclusion, and is taken out of the word only then. So the text asks
for what it asks for without this quote (`stray_quote_dropped_iff`), but for one place: a quote in
front of a hyphen hides the hyphen, and what would be excluded without the quote has to be found
(`stray_quote_hides_exclusion`). A quote behind the hyphen does no harm.

The quote touches one word only. The argument is about the two forms of this word, with and without
the quote, between the words before it and those after it.
-/

set_option autoImplicit false

namespace EstateSearch.Query

open Text

/-! ### The entries of words -/

def termsOf (policy : TermPolicy) (list : List (List Char)) : List String :=
  ((list.filter fun word => !excludes word).map fun word =>
    String.ofList (normalTerm word)).filter policy.admits

def exclusionsOf (list : List (List Char)) : List String :=
  (((list.filter excludes).map fun word => normalTerm (word.drop 1)).filter isExclusion).map
    String.ofList

@[simp]
theorem termsOf_append (policy : TermPolicy) (first second : List (List Char)) :
    termsOf policy (first ++ second) = termsOf policy first ++ termsOf policy second := by
  simp [termsOf]

@[simp]
theorem exclusionsOf_append (first second : List (List Char)) :
    exclusionsOf (first ++ second) = exclusionsOf first ++ exclusionsOf second := by
  simp [exclusionsOf]

theorem termsOf_plain {word : List Char} (plain : excludes word = false) (policy : TermPolicy) :
    termsOf policy [word] = [String.ofList (normalTerm word)].filter policy.admits := by
  simp [termsOf, plain]

theorem termsOf_excluding {word : List Char} (excluding : excludes word = true)
    (policy : TermPolicy) : termsOf policy [word] = [] := by
  simp [termsOf, excluding]

theorem exclusionsOf_plain {word : List Char} (plain : excludes word = false) :
    exclusionsOf [word] = [] := by
  simp [exclusionsOf, plain]

theorem exclusionsOf_excluding {word : List Char} (excluding : excludes word = true) :
    exclusionsOf [word] = ([normalTerm (word.drop 1)].filter isExclusion).map String.ofList := by
  simp [exclusionsOf, excluding]

/-- The two lists of words write the same terms and exclusions. -/
def WriteAlike (policy : TermPolicy) (list list' : List (List Char)) : Prop :=
  termsOf policy list = termsOf policy list' ∧ exclusionsOf list = exclusionsOf list'

/-- Words around the one that differs do not matter. -/
theorem writeAlike_between {policy : TermPolicy} {before middle middle' after : List (List Char)} :
    WriteAlike policy (before ++ middle ++ after) (before ++ middle' ++ after) ↔
      WriteAlike policy middle middle' := by
  simp only [WriteAlike, termsOf_append, exclusionsOf_append, List.append_assoc,
    List.append_cancel_left_eq, List.append_cancel_right_eq]

/-! ### The word with the quote -/

/-- A quote inside of a word is dropped from its normal form. -/
theorem normalTerm_stray (stem rest : List Char) :
    normalTerm (stem ++ '"' :: rest) = normalTerm (stem ++ rest) := by
  simp [normalTerm]

theorem admits_eq_false_of_short {policy : TermPolicy} {term : List Char}
    (short : term.length < 2) : policy.admits (String.ofList term) = false := by
  rw [Bool.eq_false_iff]
  intro admitted
  have long := TermPolicy.two_le_length_of_admits admitted
  rw [String.toList_ofList] at long
  omega

/-- A word before the quote decides alone whether the word is an exclusion, and nothing but a mere
hyphen becomes one by the quote. -/
theorem writeAlike_stem (policy : TermPolicy) {stem rest : List Char} (nonempty : stem ≠ []) :
    WriteAlike policy [stem ++ '"' :: rest] [stem ++ rest] := by
  obtain ⟨c, stem, rfl⟩ := List.exists_cons_of_ne_nil nonempty
  by_cases hyphen : c = '-'
  · subst hyphen
    have excluding : excludes ('-' :: stem ++ '"' :: rest) = true := by
      rw [List.cons_append, excludes_hyphen_cons]
      simp
    cases more : (stem ++ rest).isEmpty with
    | false =>
      have excluding' : excludes ('-' :: stem ++ rest) = true := by
        rw [List.cons_append, excludes_hyphen_cons, more, Bool.not_false]
      refine ⟨?_, ?_⟩
      · rw [termsOf_excluding excluding, termsOf_excluding excluding']
      · rw [exclusionsOf_excluding excluding, exclusionsOf_excluding excluding']
        simp only [List.cons_append, List.drop_succ_cons, List.drop_zero, normalTerm_stray]
    | true =>
      obtain ⟨rfl, rfl⟩ : stem = [] ∧ rest = [] := by simpa using more
      -- Without the quote a mere hyphen is left, which is a word and no exclusion, but too short
      -- for a term.
      have noTerm : policy.admits (String.ofList ['-']) = false :=
        admits_eq_false_of_short (by decide)
      have hyphen : normalTerm (['-'] ++ []) = ['-'] := by decide
      refine ⟨?_, by decide⟩
      rw [termsOf_excluding (by decide), termsOf_plain (by decide), hyphen, List.filter_singleton,
        noTerm]
      rfl
  · have plain {tail : List Char} : excludes (c :: tail) = false :=
      excludes_eq_false (by simpa using hyphen)
    refine ⟨?_, ?_⟩
    · rw [List.cons_append, List.cons_append, termsOf_plain plain, termsOf_plain plain,
        ← List.cons_append, normalTerm_stray, List.cons_append]
    · rw [List.cons_append, List.cons_append, exclusionsOf_plain plain, exclusionsOf_plain plain]

theorem words_of_solid {word : List Char} (nonempty : word ≠ [])
    (solid : ∀ c ∈ word, isBlank c = false) : words word = [word] := by
  have first := words_append nonempty solid (by simp [IsDetached] : IsDetached [])
  rwa [List.append_nil, words_nil] at first

/-- A quote at the start of a word changes nothing if the word is no exclusion without it. -/
theorem writeAlike_start (policy : TermPolicy) {rest : List Char}
    (solid : ∀ c ∈ rest, isBlank c = false) (plain : excludes rest = false) :
    WriteAlike policy ['"' :: rest] (words rest) := by
  have quoted : excludes ('"' :: rest) = false := excludes_eq_false (by simp)
  have term : termsOf policy ['"' :: rest] =
      [String.ofList (normalTerm rest)].filter policy.admits := by
    rw [termsOf_plain quoted, ← List.nil_append ('"' :: rest), normalTerm_stray, List.nil_append]
  by_cases nonempty : rest = []
  · subst nonempty
    have noTerm : policy.admits (String.ofList (normalTerm [])) = false :=
      admits_eq_false_of_short (by decide)
    refine ⟨?_, exclusionsOf_plain quoted⟩
    rw [term, List.filter_singleton, noTerm]
    rfl
  · rw [words_of_solid nonempty solid]
    exact ⟨term.trans (termsOf_plain plain policy).symm,
      (exclusionsOf_plain quoted).trans (exclusionsOf_plain plain).symm⟩

theorem eq_hyphen_of_lowercase_eq {word : List Char} (h : lowercase word = ['-']) :
    word = ['-'] := by
  have first : word.head? = some '-' := by
    rw [← head?_lowercase_of_isSeparator isSeparator_hyphen, h]
    rfl
  cases word with
  | nil => cases first
  | cons c rest =>
    obtain rfl : c = '-' := Option.some.inj first
    rw [lowercase_cons_separator isSeparator_hyphen] at h
    rw [lowercase_eq_nil.1 (List.cons.inj h).2]

/-- A quote in front of an exclusion makes a term of it. This can go unnoticed only if neither of
them is worth keeping. -/
theorem writeAlike_hidden_iff (policy : TermPolicy) {rest : List Char}
    (solid : ∀ c ∈ rest, isBlank c = false) (noQuote : '"' ∉ rest)
    (excluding : excludes rest = true) :
    WriteAlike policy ['"' :: rest] [rest] ↔
      rest = ['-', '-'] ∧ policy.admits "--" = false := by
  have quoted : excludes ('"' :: rest) = false := excludes_eq_false (by simp)
  have term : normalTerm ('"' :: rest) = lowercase rest := by
    rw [← List.nil_append ('"' :: rest), normalTerm_stray, List.nil_append,
      normalTerm_of_not_mem solid noQuote]
  rw [WriteAlike, termsOf_plain quoted, termsOf_excluding excluding, exclusionsOf_plain quoted,
    exclusionsOf_excluding excluding, term]
  obtain ⟨suffix, rfl⟩ : ∃ suffix, rest = '-' :: suffix := by
    cases rest with
    | nil => cases excluding
    | cons c suffix =>
      have hyphen : c = '-' := by
        simp only [excludes, Bool.and_eq_true, beq_iff_eq] at excluding
        exact Option.some.inj excluding.1
      exact ⟨suffix, by rw [hyphen]⟩
  rw [List.forall_mem_cons] at solid
  rw [List.mem_cons, not_or] at noQuote
  have exclusion : normalTerm (('-' :: suffix).drop 1) = lowercase suffix :=
    normalTerm_of_not_mem solid.2 noQuote.2
  have kept {α : Type} (keeps : α → Bool) (a : α) : [a].filter keeps = [] ↔ keeps a = false := by
    simp [List.filter_eq_nil_iff]
  rw [exclusion, kept, @eq_comm _ [], List.map_eq_nil_iff, kept]
  -- Both sides write nothing just if the word is `--`: its exclusion is a mere hyphen and is
  -- dropped.
  constructor
  · rintro ⟨noTerm, noExclusion⟩
    have nonempty : suffix ≠ [] := by simpa [excludes_hyphen_cons] using excluding
    have hyphen : lowercase suffix = ['-'] := by
      simpa [isExclusion, lowercase_eq_nil, nonempty] using noExclusion
    obtain rfl := eq_hyphen_of_lowercase_eq hyphen
    exact ⟨rfl, noTerm⟩
  · rintro ⟨two, dropped⟩
    obtain rfl : suffix = ['-'] := (List.cons.inj two).2
    exact ⟨dropped, by decide⟩

/-! ### Where the quote stands -/

/-- The word that a text starts with, if it does not start with a blank. -/
def openingWord (text : List Char) : List Char := text.takeWhile fun c => !isBlank c

/-- A quote without a partner hides an exclusion: no word goes on up to the quote, and the word that
starts behind it would be an exclusion. -/
def HidesExclusion (before after : List Char) : Prop :=
  (∀ c ∈ before.getLast?, isBlank c = true ∨ c = '"') ∧ excludes (openingWord after) = true

theorem forall_getLast?_cons {holds : Char → Prop} {c : Char} {text : List Char} :
    (∀ d ∈ (c :: text).getLast?, holds d) ↔
      (text = [] → holds c) ∧ ∀ d ∈ text.getLast?, holds d := by
  cases text with
  | nil => simp
  | cons d text => simp [List.getLast?_cons_cons]

/-- A text with paired quotes and what is left of it end alike, but for the blank that is left of a
quotation. -/
theorem getLast?_extractPhrases {text : List Char} (paired : Even (text.count '"')) :
    ((extractPhrases text).2 = [] ↔ text = []) ∧
      ((∀ c ∈ (extractPhrases text).2.getLast?, isBlank c = true) ↔
        ∀ c ∈ text.getLast?, isBlank c = true ∨ c = '"') := by
  fun_induction extractPhrases text with
  | case1 => simp
  | case2 rest inside after found phrases left walk phrase ih =>
    rw [even_count_of_upToQuote? found] at paired
    obtain ⟨empty, last⟩ := ih paired
    rw [walk] at empty last
    obtain ⟨split, -⟩ := split_of_upToQuote? found
    have space : isBlank ' ' = true := by decide
    rw [split, ← List.cons_append, List.getLast?_append_of_ne_nil _ (by simp),
      forall_getLast?_cons, forall_getLast?_cons, last]
    simp [space]
  | case3 rest missing phrases left walk ih =>
    exact absurd paired (not_even_count_of_upToQuote? missing)
  | case4 c rest notQuote phrases left walk ih =>
    rw [List.count_cons_of_ne notQuote] at paired
    obtain ⟨empty, last⟩ := ih paired
    rw [walk] at empty last
    rw [forall_getLast?_cons, forall_getLast?_cons, empty, last]
    simp [notQuote]

/-- The end of a text belongs to its last word, which goes on, or the text has none there. -/
theorem exists_front_stem (text : List Char) :
    ∃ front stem, text = front ++ stem ∧ (∀ c ∈ front.getLast?, isBlank c = true) ∧
      (∀ c ∈ stem, isBlank c = false) ∧
      ((∀ c ∈ text.getLast?, isBlank c = true) ↔ stem = []) := by
  induction text using List.reverseRecOn with
  | nil => exact ⟨[], [], by simp⟩
  | append_singleton text c ih =>
    cases blank : isBlank c with
    | true => exact ⟨text ++ [c], [], by simp [blank]⟩
    | false =>
      obtain ⟨front, stem, rfl, detached, solid, -⟩ := ih
      refine ⟨front, stem ++ [c], by simp, detached, ?_, by simp [blank]⟩
      intro d belongs
      rcases List.mem_append.1 belongs with inStem | last
      · exact solid d inStem
      · rwa [List.mem_singleton.1 last]

theorem solid_openingWord (text : List Char) : ∀ c ∈ openingWord text, isBlank c = false := by
  intro c belongs
  have uncut := List.all_eq_true.1 (List.all_takeWhile (p := fun c => !isBlank c)) c belongs
  simpa using uncut

/-- A word in front of a blank is cut off there. -/
theorem words_append_of_solid {word text : List Char} (solid : ∀ c ∈ word, isBlank c = false)
    (detached : IsDetached text) : words (word ++ text) = words word ++ words text := by
  by_cases nonempty : word = []
  · subst nonempty
    rfl
  · rw [words_append nonempty solid detached, words_of_solid nonempty solid]
    rfl

/-- A text goes on behind its opening word with a blank, if at all. -/
theorem exists_openingWord_append (text : List Char) :
    ∃ more, text = openingWord text ++ more ∧ IsDetached more := by
  refine ⟨text.dropWhile fun c => !isBlank c, List.takeWhile_append_dropWhile.symm, ?_⟩
  intro c first
  have stop := List.head?_dropWhile_not (fun c => !isBlank c) text
  rw [Option.mem_def.1 first] at stop
  simpa using stop

/-- What is left of a text with the quote writes what it writes without the quote, unless the quote
hides an exclusion. -/
theorem writeAlike_words_iff (policy : TermPolicy) {left after : List Char} (last : '"' ∉ after) :
    WriteAlike policy (words (left ++ '"' :: after)) (words (left ++ after)) ↔
      ((∀ c ∈ left.getLast?, isBlank c = true) ∧ excludes (openingWord after) = true →
        openingWord after = ['-', '-'] ∧ policy.admits "--" = false) := by
  obtain ⟨front, stem, rfl, detached, solid, ends⟩ := exists_front_stem left
  obtain ⟨more, split, detached'⟩ := exists_openingWord_append after
  have solid' := solid_openingWord after
  have noQuote : '"' ∉ openingWord after := fun belongs =>
    last (split ▸ List.mem_append_left more belongs)
  rw [ends]
  generalize openingWord after = rest at split solid' noQuote
  subst split
  have quoted : ∀ c ∈ stem ++ '"' :: rest, isBlank c = false := by
    have quote : isBlank '"' = false := by decide
    simpa [or_imp, forall_and, quote] using ⟨solid, solid'⟩
  have plain : ∀ c ∈ stem ++ rest, isBlank c = false := by
    simpa [or_imp, forall_and] using ⟨solid, solid'⟩
  -- Only the word around the quote differs; the words before and after it are the same.
  have withQuote : words (front ++ stem ++ '"' :: (rest ++ more)) =
      words front ++ [stem ++ '"' :: rest] ++ words more := by
    have assoc : front ++ stem ++ '"' :: (rest ++ more) =
      front ++ ((stem ++ '"' :: rest) ++ more) := by simp
    rw [assoc, words_append_of_getLast? detached, words_append (by simp) quoted detached',
      List.append_assoc, List.singleton_append]
  have without : words (front ++ stem ++ (rest ++ more)) =
      words front ++ words (stem ++ rest) ++ words more := by
    have assoc : front ++ stem ++ (rest ++ more) = front ++ ((stem ++ rest) ++ more) := by simp
    rw [assoc, words_append_of_getLast? detached, words_append_of_solid plain detached',
      List.append_assoc]
  rw [withQuote, without, writeAlike_between]
  -- Only a quote that starts its word can come before a hyphen that would have counted.
  by_cases inside : stem = []
  · subst inside
    cases excluding : excludes rest with
    | false => simpa using writeAlike_start policy solid' excluding
    | true =>
      have nonempty : rest ≠ [] := by
        rintro rfl
        cases excluding
      rw [List.nil_append, List.nil_append, words_of_solid nonempty solid',
        writeAlike_hidden_iff policy solid' noQuote excluding]
      simp
  · rw [words_of_solid (by simp [inside]) plain]
    simpa [inside] using writeAlike_stem policy inside

/-! ### The query -/

theorem extractPhrases_of_not_mem {text : List Char} (h : '"' ∉ text) :
    extractPhrases text = ([], text) := by
  rw [extractPhrases_eq, List.splitOn_eq_singleton h, spans_singleton, outside_singleton]
  rfl

/-- A quote without a partner stays in the text. -/
theorem extractPhrases_quote_cons {text : List Char} (h : '"' ∉ text) :
    extractPhrases ('"' :: text) = ([], '"' :: text) := by
  have cut : ('"' :: text).splitOn '"' = [[], text] := by
    rw [List.splitOn, List.splitOnP_cons_eq_if_modifyHead, if_pos (by decide), ← List.splitOn,
      List.splitOn_eq_singleton h]
  rw [extractPhrases_eq, cut, spans_pair, outside_pair]
  rfl

section

variable {policy : TermPolicy} {text : String} {before after : List Char}

/-- The quotes in front of the one without a partner come in pairs. -/
theorem even_count_before (split : text.toList = before ++ '"' :: after) (last : '"' ∉ after)
    (odd : Odd (text.toList.count '"')) : Even (before.count '"') := by
  rw [split, List.count_append, List.count_cons_self, List.count_eq_zero.2 last] at odd
  simpa [Nat.odd_add_one] using odd

/-- The last of an odd number of quotes is left in the text outside the phrases, which are the same
without it. So all depends on the words. -/
theorem sameEntries_iff_writeAlike (split : text.toList = before ++ '"' :: after)
    (last : '"' ∉ after) (odd : Odd (text.toList.count '"')) :
    (parse policy text).phrases = (parse policy (String.ofList (before ++ after))).phrases ∧
      (SameEntries (parse policy text) (parse policy (String.ofList (before ++ after))) ↔
        WriteAlike policy (words ((extractPhrases before).2 ++ '"' :: after))
          (words ((extractPhrases before).2 ++ after))) := by
  have paired := even_count_before split last odd
  -- Before the last quote all quotes are paired, so the phrases are the same with and without it.
  have withQuote : extractPhrases text.toList =
      ((extractPhrases before).1, (extractPhrases before).2 ++ '"' :: after) := by
    rw [split, extractPhrases_append_of_paired paired, extractPhrases_quote_cons last,
      List.append_nil]
  have without : extractPhrases (String.ofList (before ++ after)).toList =
      ((extractPhrases before).1, (extractPhrases before).2 ++ after) := by
    rw [String.toList_ofList, extractPhrases_append_of_paired paired,
      extractPhrases_of_not_mem last, List.append_nil]
  have phrases : (parse policy text).phrases =
      (parse policy (String.ofList (before ++ after))).phrases := by
    rw [parse_phrases, parse_phrases, withQuote, without]
  have alike : WriteAlike policy (words (extractPhrases text.toList).2)
      (words (extractPhrases (String.ofList (before ++ after)).toList).2) ↔
      (parse policy text).terms = (parse policy (String.ofList (before ++ after))).terms ∧
        (parse policy text).exclusions =
          (parse policy (String.ofList (before ++ after))).exclusions := by
    rw [parse_terms, parse_terms, parse_exclusions, parse_exclusions]
    rfl
  rw [withQuote, without] at alike
  rw [alike]
  exact ⟨phrases, fun same => ⟨same.terms, same.exclusions⟩,
    fun same => ⟨phrases, same.1, same.2⟩⟩

/-- A text with an odd number of quotes has the phrases that it has without the last one, and asks
for the same altogether if this one hides no exclusion, and only then. The one exception is a word
of two hyphens that the policy does not admit as a term: it asks for nothing, hidden or not. -/
theorem stray_quote_dropped_iff (split : text.toList = before ++ '"' :: after)
    (last : '"' ∉ after) (odd : Odd (text.toList.count '"')) :
    (parse policy text).phrases = (parse policy (String.ofList (before ++ after))).phrases ∧
      (SameEntries (parse policy text) (parse policy (String.ofList (before ++ after))) ↔
        (HidesExclusion before after →
          openingWord after = ['-', '-'] ∧ policy.admits "--" = false)) := by
  have paired := even_count_before split last odd
  refine ⟨(sameEntries_iff_writeAlike split last odd).1, ?_⟩
  rw [(sameEntries_iff_writeAlike split last odd).2, writeAlike_words_iff policy last,
    HidesExclusion, (getLast?_extractPhrases paired).2]

/-- The quote in front of a sea view hides nothing. -/
theorem stray_quote_dropped_view :
    SameEntries (parse ⟨[], ⟨.empty⟩⟩ "maison \"vue mer")
      (parse ⟨[], ⟨.empty⟩⟩ "maison vue mer") := by
  have split : "maison \"vue mer".toList = "maison ".toList ++ '"' :: "vue mer".toList := by decide
  have last : '"' ∉ "vue mer".toList := by decide
  have odd : Odd ("maison \"vue mer".toList.count '"') := by decide
  have noHyphen : ¬ HidesExclusion "maison ".toList "vue mer".toList := fun hides =>
    absurd hides.2 (by decide)
  exact (stray_quote_dropped_iff split last odd).2.2 fun hides => absurd hides noHyphen

/-- Homes without a garage are asked for, and those with one are looked for: the quote hides the
hyphen. -/
theorem stray_quote_hides_exclusion :
    ¬ ∀ (policy : TermPolicy) (text : String) (before after : List Char),
      text.toList = before ++ '"' :: after → '"' ∉ after → Odd (text.toList.count '"') →
        SameEntries (parse policy text) (parse policy (String.ofList (before ++ after))) := by
  intro dropped
  have split : "\"-garage".toList = [] ++ '"' :: "-garage".toList := by decide
  have last : '"' ∉ "-garage".toList := by decide
  have odd : Odd ("\"-garage".toList.count '"') := by decide
  have same := dropped ⟨[], ⟨.empty⟩⟩ "\"-garage" _ _ split last odd
  rw [(sameEntries_iff_writeAlike split last odd).2, writeAlike_words_iff _ last] at same
  have hyphens := (same ⟨by simp [extractPhrases], by decide⟩).1
  exact absurd hyphens (by decide)

end

end EstateSearch.Query
