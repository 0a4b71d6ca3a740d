import EstateSearch.Proofs.Query.Display
import EstateSearch.Proofs.Query.StrayQuote

/-!
# What the policy for terms decides

A text is read in the same way under every policy: the policy is asked only at the end, which of the
words that are left become terms (`parse_terms_eq`). It has a say on words of two characters and on
no others. So two policies differ in these terms only, and they read all texts alike just if they
admit the same words of two characters (`policy_chooses_short_terms`).

Length is that of a word in lowercase and without quotes. An entry of the list of short words counts
in lowercase, too, so that the capital `İ` stands for a word of two characters.
-/

set_option autoImplicit false

namespace EstateSearch

namespace TermPolicy

variable {policy policy' : TermPolicy} {term : String}

/-- On a term of any other length than two all policies agree. -/
theorem admits_eq_of_length (h : term.toList.length ≠ 2) :
    policy.admits term = policy'.admits term := by
  match spelled : term.toList, h with
  | [], _ => simp only [admits, spelled]
  | [a], _ => simp only [admits, spelled]
  | a :: b :: c :: rest, _ => simp only [admits, spelled]

/-- Terms of two characters are decided by the list and the pattern. -/
theorem admits_of_length (h : term.toList.length = 2) :
    policy.admits term =
      (policy.shortWords.contains term || policy.shortCode.occursIn term.toList) := by
  match spelled : term.toList, h with
  | [a, b], _ => simp only [admits, spelled]

/-- The same entries of two characters, once they are in lowercase. -/
def SameShortWords (words words' : List String) : Prop :=
  ∀ word : String, word.toList.length = 2 →
    (word ∈ words.map Text.lower ↔ word ∈ words'.map Text.lower)

/-- Only the entries of two characters matter. -/
theorem SameShortWords.admits_eq {words words' : List String} (same : SameShortWords words words')
    (shortCode : Pattern) (term : String) :
    (ofWords words shortCode).admits term = (ofWords words' shortCode).admits term := by
  by_cases short : term.toList.length = 2
  · have listed : (words.map Text.lower).contains term = (words'.map Text.lower).contains term := by
      rw [Bool.eq_iff_iff, List.contains_iff_mem, List.contains_iff_mem]
      exact same term short
    rw [admits_of_length short, admits_of_length short, ofWords, ofWords, listed]
  · exact admits_eq_of_length short

end TermPolicy

namespace Query

open Text

variable {policy policy' : TermPolicy} {text term : String}

/-! ### Words that may become terms -/

/-- The words of a text that become terms if the policy admits them. -/
def candidates (text : String) : List String :=
  ((words (extractPhrases text.toList).2).filter fun word => !excludes word).map fun word =>
    String.ofList (normalTerm word)

/-- The policy is asked once for each candidate and nowhere else. -/
theorem parse_terms_eq (policy : TermPolicy) (text : String) :
    (parse policy text).terms = (candidates text).filter policy.admits := parse_terms policy text

/-- The policy decides on terms only. -/
theorem parse_eq_iff :
    parse policy text = parse policy' text ↔
      (parse policy text).terms = (parse policy' text).terms := by
  rw [parse_eq_walks policy, parse_eq_walks policy']
  simp

/-- A term of two characters as it may stand in a query. -/
structure IsShortTerm (term : String) : Prop where
  needle : IsNeedle term
  solid : ∀ c ∈ term.toList, isBlank c = false
  short : term.toList.length = 2

theorem isShortTerm_of_mem_candidates (h : term ∈ candidates text)
    (short : term.toList.length = 2) : IsShortTerm term := by
  obtain ⟨word, kept, rfl⟩ := List.mem_map.1 h
  have solid := (mem_words (List.mem_filter.1 kept).1).2
  have nonempty : String.ofList (normalTerm word) ≠ "" := by
    intro empty
    rw [empty] at short
    cases short
  refine ⟨isNeedle_normalTerm nonempty, ?_, short⟩
  rw [String.toList_ofList]
  exact solid_normalTerm solid

/-- Behind a quote without a partner every clean word may become a term, with a hyphen in front or
not. -/
theorem candidates_quote_append (h : IsShortTerm term) : candidates ("\"" ++ term) = [term] := by
  have noQuote := h.needle.noQuote
  have spelled : ("\"" ++ term).toList = '"' :: term.toList := by simp
  have solid : ∀ c ∈ '"' :: term.toList, isBlank c = false := by
    rw [List.forall_mem_cons]
    exact ⟨by decide, h.solid⟩
  have plain : excludes ('"' :: term.toList) = false := excludes_eq_false (by simp)
  rw [candidates, spelled, extractPhrases_quote_cons noQuote, words_of_solid (by simp) solid]
  have stripped : normalTerm ('"' :: term.toList) = term.toList :=
    (normalTerm_stray [] term.toList).trans (h.needle.normalTerm_eq h.solid)
  simp [plain, stripped]

/-! ### Two policies -/

def isNotShort (term : String) : Bool := term.toList.length != 2

theorem filter_isNotShort_terms (policy policy' : TermPolicy) (text : String) :
    (parse policy text).terms.filter isNotShort = (parse policy' text).terms.filter isNotShort := by
  rw [parse_terms_eq, parse_terms_eq, List.filter_comm, List.filter_comm isNotShort]
  refine List.filter_congr fun term kept => TermPolicy.admits_eq_of_length ?_
  simpa [isNotShort] using (List.mem_filter.1 kept).2

/-- Policies that agree on terms of two characters read all texts alike. -/
theorem parse_eq_of_admits
    (alike : ∀ term, IsShortTerm term → policy.admits term = policy'.admits term) (text : String) :
    parse policy text = parse policy' text := by
  rw [parse_eq_iff, parse_terms_eq, parse_terms_eq]
  refine List.filter_congr fun term belongs => ?_
  by_cases short : term.toList.length = 2
  · exact alike term (isShortTerm_of_mem_candidates belongs short)
  · exact TermPolicy.admits_eq_of_length short

/-- Conversely, a term is a text of its own, on which the policies can be told apart. -/
theorem admits_eq_of_parse (alike : ∀ text, parse policy text = parse policy' text)
    (h : IsShortTerm term) : policy.admits term = policy'.admits term := by
  -- Behind a quote without a partner even a term with a hyphen in front is a candidate.
  have same := parse_eq_iff.1 (alike ("\"" ++ term))
  rw [parse_terms_eq, parse_terms_eq, candidates_quote_append h] at same
  have kept : term ∈ [term].filter policy.admits ↔ term ∈ [term].filter policy'.admits := by
    rw [same]
  rw [Bool.eq_iff_iff]
  simpa using kept

/-- Two policies read the same phrases and exclusions out of a text, and the same terms but for
those of two characters. If they have the same pattern, and the same entries of two characters once
these are in lowercase, they read the same altogether. This is so for any two policies just if they
admit the same words of two characters. -/
theorem policy_chooses_short_terms :
    (∀ (policy policy' : TermPolicy) (text : String),
      (parse policy text).phrases = (parse policy' text).phrases ∧
      (parse policy text).exclusions = (parse policy' text).exclusions ∧
      (parse policy text).terms.filter isNotShort = (parse policy' text).terms.filter isNotShort) ∧
    (∀ words words' shortCode, TermPolicy.SameShortWords words words' → ∀ text,
      parse (.ofWords words shortCode) text = parse (.ofWords words' shortCode) text) ∧
    ∀ policy policy', (∀ text, parse policy text = parse policy' text) ↔
      ∀ term, IsShortTerm term → policy.admits term = policy'.admits term := by
  refine ⟨fun policy policy' text => ?_, fun words words' shortCode same text => ?_,
    fun policy policy' => ⟨fun alike term h => admits_eq_of_parse alike h, parse_eq_of_admits⟩⟩
  · refine ⟨?_, ?_, filter_isNotShort_terms policy policy' text⟩
    · rw [parse_phrases, parse_phrases]
    · rw [parse_exclusions, parse_exclusions]
  · exact parse_eq_of_admits (fun term _ => same.admits_eq shortCode term) text

/-- Of both lists only one word can be a term of two characters: the others have one or more than
two. -/
theorem policy_chooses_short_terms_de :
    TermPolicy.SameShortWords ["DE", "à", "villa"] ["Vue", "de", "De"] ∧
      parse (.ofWords ["DE", "à", "villa"] ⟨.empty⟩) "De la mer -à" =
        parse (.ofWords ["Vue", "de", "De"] ⟨.empty⟩) "De la mer -à" := by
  have lowered : ["DE", "à", "villa"].map lower = ["de", "à", "villa"] := by decide +kernel
  have lowered' : ["Vue", "de", "De"].map lower = ["vue", "de", "de"] := by decide +kernel
  have same : TermPolicy.SameShortWords ["DE", "à", "villa"] ["Vue", "de", "De"] := by
    intro word short
    have others : word ≠ "à" ∧ word ≠ "villa" ∧ word ≠ "vue" := by
      refine ⟨?_, ?_, ?_⟩ <;> rintro rfl <;> cases short
    rw [lowered, lowered']
    simp [others]
  exact ⟨same, policy_chooses_short_terms.2.1 _ _ ⟨.empty⟩ same _⟩

end Query

end EstateSearch
