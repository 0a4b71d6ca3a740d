import EstateSearch.Proofs.Query.Grammar
import Mathlib.Algebra.Group.Nat.Even

/-!
# Queries of joined texts

Two texts with a space between them ask for what the one asks for and then for what the other asks
for (`isJoin_parse`), if the quotes of the first one come in pairs. A quote without a partner would
look for it in the second text.

Both walks over the text respect the seam. No pair of quotes goes across it
(`extractPhrases_append`), and the space keeps the last word of the first text from growing together
with the first word of the second (`Text.words_append_blank`).
-/

set_option autoImplicit false

namespace EstateSearch.Query

open Text

/-! ### The first walk at a seam -/

/-- The next quote is found before anything that is put behind it. -/
theorem upToQuote?_append {text inside after : List Char}
    (h : upToQuote? text = some (inside, after)) (more : List Char) :
    upToQuote? (text ++ more) = some (inside, after ++ more) := by
  induction text generalizing inside with
  | nil => cases h
  | cons c rest ih =>
    rw [upToQuote?] at h
    rw [List.cons_append, upToQuote?]
    split at h
    · rename_i isQuote
      obtain ⟨rfl, rfl⟩ : [] = inside ∧ rest = after := by simpa using h
      rw [if_pos isQuote]
    · rename_i notQuote
      rw [if_neg notQuote]
      split at h
      · rename_i inside' after' found
        obtain ⟨rfl, rfl⟩ : c :: inside' = inside ∧ after' = after := by simpa using h
        rw [ih found]
      · cases h

theorem extractPhrases_of_upToQuote? {rest inside after : List Char}
    (h : upToQuote? rest = some (inside, after)) :
    extractPhrases ('"' :: rest) =
      (if (normalPhrase inside).isEmpty then (extractPhrases after).1
        else normalPhrase inside :: (extractPhrases after).1, ' ' :: (extractPhrases after).2) := by
  rw [extractPhrases, if_pos rfl]
  split
  · rename_i inside' after' found
    obtain ⟨rfl, rfl⟩ : inside' = inside ∧ after' = after := by simpa [found] using h
    rfl
  · rename_i missing
    rw [missing] at h
    cases h

theorem extractPhrases_cons {c : Char} (h : c ≠ '"') (rest : List Char) :
    extractPhrases (c :: rest) = ((extractPhrases rest).1, c :: (extractPhrases rest).2) := by
  rw [extractPhrases, if_neg h]

/-- A quote and its partner do not change whether the quotes come in pairs. -/
theorem even_count_of_upToQuote? {rest inside after : List Char}
    (h : upToQuote? rest = some (inside, after)) :
    Even (('"' :: rest).count '"') ↔ Even (after.count '"') := by
  obtain ⟨split, noQuote⟩ := split_of_upToQuote? h
  have count : ('"' :: rest).count '"' = after.count '"' + 2 := by
    simp [split, List.count_eq_zero.2 noQuote]
  have two : Even 2 := ⟨1, rfl⟩
  rw [count, Nat.even_add, iff_true_right two]

/-- A quote without a partner is the only one that is left. -/
theorem not_even_count_of_upToQuote? {rest : List Char} (h : upToQuote? rest = none) :
    ¬ Even (('"' :: rest).count '"') := by
  have noQuote := List.count_eq_zero.2 (not_mem_of_upToQuote? h)
  simp [noQuote]

/-- A text whose quotes come in pairs is walked over to its end before the other text begins. -/
theorem extractPhrases_append_of_paired {text : List Char} (paired : Even (text.count '"'))
    (more : List Char) :
    extractPhrases (text ++ more) =
      ((extractPhrases text).1 ++ (extractPhrases more).1,
        (extractPhrases text).2 ++ (extractPhrases more).2) := by
  fun_induction extractPhrases text with
  | case1 => simp
  | case2 rest inside after found phrases left walk phrase ih =>
    rw [even_count_of_upToQuote? found] at paired
    rw [List.cons_append, extractPhrases_of_upToQuote? (upToQuote?_append found _), ih paired, walk]
    simp only [phrase]
    split <;> simp
  | case3 rest missing phrases left walk ih =>
    -- A quote that finds no partner in the first text would make its quotes odd in number.
    exact absurd paired (not_even_count_of_upToQuote? missing)
  | case4 c rest notQuote phrases left walk ih =>
    rw [List.count_cons_of_ne notQuote] at paired
    rw [List.cons_append, extractPhrases_cons notQuote, ih paired, walk]
    rfl

/-- With paired quotes a space separates two texts as if each were read alone. -/
theorem extractPhrases_append {text : List Char} (paired : Even (text.count '"'))
    (more : List Char) :
    extractPhrases (text ++ ' ' :: more) =
      ((extractPhrases text).1 ++ (extractPhrases more).1,
        (extractPhrases text).2 ++ ' ' :: (extractPhrases more).2) := by
  rw [extractPhrases_append_of_paired paired, extractPhrases_cons (by decide)]

/-! ### The entries of a query -/

/-- A blank text needs no exception: the walks find nothing in it. -/
theorem parse_eq_walks (policy : TermPolicy) (text : String) :
    parse policy text =
      let (phrases, left) := extractPhrases text.toList
      let (exclusions, rest) := extractExclusions left
      Query.mk (phrases.map String.ofList)
        (((words rest).map fun word => String.ofList (normalTerm word)).filter policy.admits)
        (exclusions.map String.ofList) text := by
  rw [parse]
  split
  · rename_i blank
    exact (grammar_of_blank policy blank).symm.trans (walks_eq_grammar policy text).symm
  · rfl

/-- The phrases are what is extracted. Blank texts need no case of their own here and below. -/
theorem parse_phrases (policy : TermPolicy) (text : String) :
    (parse policy text).phrases = (extractPhrases text.toList).1.map String.ofList := by
  rw [parse_eq_walks]

/-- The terms are the admitted normal forms of the words that exclude nothing. -/
theorem parse_terms (policy : TermPolicy) (text : String) :
    (parse policy text).terms =
      (((words (extractPhrases text.toList).2).filter fun word => !excludes word).map fun word =>
        String.ofList (normalTerm word)).filter policy.admits := by
  rw [parse_eq_walks, ← (extractExclusions_eq _).2]

/-- The exclusions are the normal forms worth keeping of the words that exclude. -/
theorem parse_exclusions (policy : TermPolicy) (text : String) :
    (parse policy text).exclusions =
      ((((words (extractPhrases text.toList).2).filter excludes).map fun word =>
        normalTerm (word.drop 1)).filter isExclusion).map String.ofList := by
  rw [parse_eq_walks, ← (extractExclusions_eq _).1]

/-! ### Joined texts -/

/-- The query has the entries of two others, those of the first one in front. -/
structure IsJoin (whole first second : Query) : Prop where
  phrases : whole.phrases = first.phrases ++ second.phrases
  terms : whole.terms = first.terms ++ second.terms
  exclusions : whole.exclusions = first.exclusions ++ second.exclusions

/-- The query of two texts with a space between them has the entries of both. -/
theorem isJoin_parse (policy : TermPolicy) {first : String} (paired : Even (first.toList.count '"'))
    (second : String) :
    IsJoin (parse policy (first ++ " " ++ second)) (parse policy first) (parse policy second) := by
  have seam : (first ++ " " ++ second).toList = first.toList ++ ' ' :: second.toList := by simp
  have blank : isBlank ' ' = true := by decide
  constructor
  · simp only [parse_phrases, seam, extractPhrases_append paired, List.map_append]
  · simp only [parse_terms, seam, extractPhrases_append paired, words_append_blank blank,
      List.filter_append, List.map_append]
  · simp only [parse_exclusions, seam, extractPhrases_append paired, words_append_blank blank,
      List.filter_append, List.map_append]

end EstateSearch.Query
