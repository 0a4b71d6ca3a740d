import EstateSearch.Proofs.Query.Fragments
import EstateSearch.Proofs.Search.Policy

/-!
# Refining a search

What typing on does to a search (`typing_on_refines`). A quotation or an exclusion can only take
records away. A term takes records away where all terms are asked for, and also if it is the first
one; where one term is enough, a further term can only bring records in. Asking for all terms takes
no fewer records away than asking for one.

The direction depends on the queries alone and not on the criteria, so the argument is about when
one query is at least as strict as another in whatever fields it looks (`Tightens`).
-/

set_option autoImplicit false

namespace EstateSearch.Search

open Query

/-! ### Searches of either kind -/

/-- The criteria of a search for records of either kind. -/
inductive SearchCriteria where
  | properties (criteria : PropertyCriteria)
  | users (criteria : UserCriteria)

def SearchCriteria.condition (termMatch : TermMatch) (query : Query) : SearchCriteria → Condition
  | properties criteria => propertyCondition termMatch criteria query
  | users criteria => userCondition termMatch criteria query

/-! ### Stricter queries -/

/-- Whichever fields are looked at, a row that meets the first query meets the other one. -/
def Tightens (termMatch : TermMatch) (query : Query) (termMatch' : TermMatch) (other : Query) :
    Prop :=
  ∀ phraseFields termFields exclusionFields row,
    QueryPolicy termMatch phraseFields termFields exclusionFields query row →
      QueryPolicy termMatch' phraseFields termFields exclusionFields other row

/-- A stricter query finds no further records, whatever the criteria. -/
theorem Tightens.accepts {termMatch termMatch' : TermMatch} {query other : Query}
    (tightens : Tightens termMatch query termMatch' other) (criteria : SearchCriteria) {row : Row}
    (accepted : (criteria.condition termMatch query).accepts row = true) :
    (criteria.condition termMatch' other).accepts row = true := by
  cases criteria with
  | properties criteria =>
    rw [SearchCriteria.condition, accepts_propertyCondition_iff] at accepted ⊢
    exact { accepted with query := tightens _ _ _ row accepted.query }
  | users criteria =>
    rw [SearchCriteria.condition, accepts_userCondition_iff] at accepted ⊢
    exact { accepted with query := tightens _ _ _ row accepted.query }

/-- Asking for all terms is as strict as asking for one. -/
theorem tightens_all_any (query : Query) : Tightens .all query .any query := by
  intro phraseFields termFields exclusionFields row policy
  refine ⟨policy.phrases, ?_, policy.exclusions⟩
  rcases policy.terms with empty | ⟨other, -⟩ | ⟨-, found⟩
  · exact .inl empty
  · cases other
  · cases spelled : query.terms with
    | nil => exact .inl rfl
    | cons term terms =>
      rw [spelled] at found
      exact .inr (.inl ⟨rfl, term, by simp, found term (by simp)⟩)

variable {termMatch : TermMatch} {whole first second : Query}

/-- Joined queries are as strict as the first of them. If one term is enough, this needs that the
terms of the one or of the other do not make it easier. -/
theorem tightens_of_isJoin (join : IsJoin whole first second)
    (terms : termMatch = .all ∨ first.terms = [] ∨ second.terms = []) :
    Tightens termMatch whole termMatch first := by
  intro phraseFields termFields exclusionFields row policy
  obtain ⟨phrases, found, exclusions⟩ := policy
  rw [join.phrases, List.forall_mem_append] at phrases
  rw [join.exclusions, List.forall_mem_append] at exclusions
  rw [join.terms] at found
  refine ⟨phrases.1, ?_, exclusions.1⟩
  rcases terms with rfl | none | none
  · rcases found with empty | ⟨other, -⟩ | ⟨-, found⟩
    · exact .inl (List.append_eq_nil_iff.1 empty).1
    · cases other
    · exact .inr (.inr ⟨rfl, (List.forall_mem_append.1 found).1⟩)
  · exact .inl none
  · rwa [none, List.append_nil] at found

/-- Where one term is enough, a query that has one is as strict as it is with more terms. -/
theorem tightens_whole_of_isJoin (join : IsJoin whole first second) (someTerm : first.terms ≠ [])
    (phrases : second.phrases = []) (exclusions : second.exclusions = []) :
    Tightens .any first .any whole := by
  intro phraseFields termFields exclusionFields row policy
  refine ⟨?_, ?_, ?_⟩
  · rw [join.phrases, phrases, List.append_nil]
    exact policy.phrases
  · rcases policy.terms with empty | ⟨-, term, belongs, found⟩ | ⟨other, -⟩
    · exact absurd empty someTerm
    · rw [join.terms]
      exact .inr (.inl ⟨rfl, term, List.mem_append_left _ belongs, found⟩)
    · cases other
  · rw [join.exclusions, exclusions, List.append_nil]
    exact policy.exclusions

/-! ### Typing on -/

/-- Typing on behind a text with paired quotes. A quotation or an exclusion never brings a rejected
record in. A term never does so either where all terms are asked for, or if there was no term before
it, and it never takes a record away if there was one and one is enough. And with any text, a record
that has all terms is found where one is enough. -/
theorem typing_on_refines (policy : TermPolicy) (criteria : SearchCriteria) (row : Row)
    (text : String) :
    let accepts (termMatch : TermMatch) (typed : String) : Prop :=
      (criteria.condition termMatch (parse policy typed)).accepts row = true
    (Even (text.toList.count '"') →
      (∀ inside : String, '"' ∉ inside.toList → ∀ termMatch,
        accepts termMatch (text ++ " " ++ ("\"" ++ inside ++ "\"")) → accepts termMatch text) ∧
      (∀ word, IsWord word → ∀ termMatch,
        accepts termMatch (text ++ " " ++ ("-" ++ word)) → accepts termMatch text) ∧
      ∀ word, IsWord word → word.toList.head? ≠ some '-' →
        (accepts .all (text ++ " " ++ word) → accepts .all text) ∧
        ((parse policy text).terms = [] →
          accepts .any (text ++ " " ++ word) → accepts .any text) ∧
        ((parse policy text).terms ≠ [] →
          accepts .any text → accepts .any (text ++ " " ++ word))) ∧
    (accepts .all text → accepts .any text) := by
  intro accepts
  refine ⟨fun paired => ⟨?_, ?_, ?_⟩, (tightens_all_any _).accepts criteria⟩
  · intro inside noQuote termMatch
    -- A quotation and an exclusion add no term, so the query is tightened however terms combine.
    have join := isJoin_parse policy paired ("\"" ++ inside ++ "\"")
    obtain ⟨-, noTerm, -⟩ := parse_quotation policy noQuote
    exact (tightens_of_isJoin join (.inr (.inr noTerm))).accepts criteria
  · intro word isWord termMatch
    have join := isJoin_parse policy paired ("-" ++ word)
    obtain ⟨-, noTerm, -⟩ := parse_word policy isWord.hyphen_append
    have none := noTerm isWord.excludes_hyphen_append
    exact (tightens_of_isJoin join (.inr (.inr none))).accepts criteria
  · intro word isWord plain
    -- A word adds at most a term, which tightens a query for all terms and widens one for any.
    have join := isJoin_parse policy paired word
    obtain ⟨noPhrase, -, noExclusion⟩ := parse_word policy isWord
    have none := noExclusion (excludes_eq_false plain)
    refine ⟨?_, ?_, ?_⟩
    · exact (tightens_of_isJoin join (.inl rfl)).accepts criteria
    · intro noTerm
      exact (tightens_of_isJoin join (.inr (.inl noTerm))).accepts criteria
    · intro someTerm
      exact (tightens_whole_of_isJoin join someTerm noPhrase none).accepts criteria

/-- Behind a phrase and a term, a property that is found stays found with one more term, and the
quotation, the exclusion and the term bring nothing in where all terms are asked for. -/
theorem typing_on_refines_jardin :
    let policy : TermPolicy := ⟨["t2"], ⟨.empty⟩⟩
    let property := { Property.blank with title := some "T2 avec jardin", city := some "Paris" }
    let text := "\"paris\" jardin"
    let accepts (termMatch : TermMatch) (typed : String) : Prop :=
      ((SearchCriteria.properties .blank).condition termMatch (parse policy typed)).accepts
        property.row = true
    Even (text.toList.count '"') ∧ IsWord "garage" ∧ (parse policy text).terms ≠ [] ∧
      accepts .all text ∧ accepts .any text ∧ accepts .any (text ++ " " ++ "garage") ∧
      (accepts .all (text ++ " " ++ ("\"" ++ "vue mer" ++ "\"")) → accepts .all text) ∧
      (accepts .all (text ++ " " ++ ("-" ++ "garage")) → accepts .all text) ∧
      (accepts .all (text ++ " " ++ "garage") → accepts .all text) := by
  intro policy property text accepts
  have paired : Even (text.toList.count '"') := by decide
  have isWord : IsWord "garage" := by decide
  have someTerm : (parse policy text).terms ≠ [] := by decide +kernel
  have found : accepts .all text := by decide +kernel
  obtain ⟨further, weaker⟩ :=
    typing_on_refines policy (.properties .blank) property.row text
  obtain ⟨quotation, exclusion, term⟩ := further paired
  obtain ⟨stricter, -, wider⟩ := term "garage" isWord (by decide)
  exact ⟨paired, isWord, someTerm, found, weaker found, wider someTerm (weaker found),
    quotation "vue mer" (by decide) .all, exclusion "garage" isWord .all, stricter⟩

end EstateSearch.Search
