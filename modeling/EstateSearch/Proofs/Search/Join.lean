import EstateSearch.Proofs.Query.Join
import EstateSearch.Proofs.Search.Policy
import Mathlib.Data.List.Perm.Basic

/-!
# Searches for joined texts

A search for two texts with a space between them asks for the entries of both (`parse_join_decides`).
It does not matter which of the two comes first, and where all terms are asked for it is met by
exactly the rows that meet both searches.

A policy asks for the entries of each kind one by one, so their order does not count
(`QueryPolicy.of_perm`). If one of the terms is enough, a search for both texts may accept a row that
one of the searches rejects.
-/

set_option autoImplicit false

namespace EstateSearch.Search

open Query

variable {termMatch : TermMatch} {phraseFields termFields exclusionFields : List Field} {row : Row}

/-! ### What the order of the entries does -/

/-- A policy stays met when the entries of the query come in another order. -/
theorem QueryPolicy.of_perm {query other : Query}
    (policy : QueryPolicy termMatch phraseFields termFields exclusionFields query row)
    (phrases : query.phrases.Perm other.phrases) (terms : query.terms.Perm other.terms)
    (exclusions : query.exclusions.Perm other.exclusions) :
    QueryPolicy termMatch phraseFields termFields exclusionFields other row where
  phrases phrase belongs := policy.phrases phrase (phrases.mem_iff.2 belongs)
  terms := by
    rcases policy.terms with empty | ⟨matching, term, belongs, found⟩ | ⟨matching, found⟩
    · rw [empty] at terms
      exact .inl terms.symm.eq_nil
    · exact .inr (.inl ⟨matching, term, terms.mem_iff.1 belongs, found⟩)
    · exact .inr (.inr ⟨matching, fun term belongs => found term (terms.mem_iff.2 belongs)⟩)
  exclusions term belongs := policy.exclusions term (exclusions.mem_iff.2 belongs)

/-- Which of two queries comes first does not matter. -/
theorem QueryPolicy.of_isJoin_swap {whole swapped first second : Query}
    (policy : QueryPolicy termMatch phraseFields termFields exclusionFields whole row)
    (join : IsJoin whole first second) (join' : IsJoin swapped second first) :
    QueryPolicy termMatch phraseFields termFields exclusionFields swapped row := by
  refine policy.of_perm ?_ ?_ ?_
  · rw [join.phrases, join'.phrases]
    exact List.perm_append_comm
  · rw [join.terms, join'.terms]
    exact List.perm_append_comm
  · rw [join.exclusions, join'.exclusions]
    exact List.perm_append_comm

/-! ### Where all terms are asked for -/

/-- If all terms are asked for, the policy is a conjunction over the entries. -/
theorem queryPolicy_all_iff (query : Query) :
    QueryPolicy .all phraseFields termFields exclusionFields query row ↔
      (∀ phrase ∈ query.phrases, ∃ field ∈ phraseFields, Mentions row field phrase) ∧
        (∀ term ∈ query.terms, ∃ field ∈ termFields, Mentions row field term) ∧
        ∀ term ∈ query.exclusions, ∀ field ∈ exclusionFields, ¬ Mentions row field term := by
  constructor
  · intro policy
    refine ⟨policy.phrases, ?_, policy.exclusions⟩
    rcases policy.terms with empty | ⟨other, -⟩ | ⟨-, found⟩
    · simp [empty]
    · cases other
    · exact found
  · rintro ⟨phrases, terms, exclusions⟩
    exact ⟨phrases, .inr (.inr ⟨rfl, terms⟩), exclusions⟩

/-- Then a joined query asks for what its parts ask for. -/
theorem queryPolicy_all_of_isJoin {whole first second : Query} (join : IsJoin whole first second) :
    QueryPolicy .all phraseFields termFields exclusionFields whole row ↔
      QueryPolicy .all phraseFields termFields exclusionFields first row ∧
        QueryPolicy .all phraseFields termFields exclusionFields second row := by
  simp only [queryPolicy_all_iff, join.phrases, join.terms, join.exclusions,
    List.forall_mem_append]
  constructor
  · rintro ⟨⟨phrases, phrases'⟩, ⟨terms, terms'⟩, exclusions, exclusions'⟩
    exact ⟨⟨phrases, terms, exclusions⟩, phrases', terms', exclusions'⟩
  · rintro ⟨⟨phrases, terms, exclusions⟩, phrases', terms', exclusions'⟩
    exact ⟨⟨phrases, phrases'⟩, ⟨terms, terms'⟩, exclusions, exclusions'⟩

/-! ### Searches -/

/-- A query without entries asks for nothing. -/
theorem queryPolicy_of_no_entries (typed : String) :
    QueryPolicy termMatch phraseFields termFields exclusionFields ⟨[], [], [], typed⟩ row :=
  ⟨by simp, .inl rfl, by simp⟩

/-- A search for properties is its criteria, which the query does not touch, and its query. -/
theorem accepts_propertyCondition_split (termMatch : TermMatch) (criteria : PropertyCriteria)
    (row : Row) :
    ∃ met : Prop, ∀ query, (propertyCondition termMatch criteria query).accepts row = true ↔
      met ∧ QueryPolicy termMatch [.title, .description, .city]
        [.title, .description, .city, .address] [.title, .description, .city] query row := by
  refine ⟨PropertyPolicy termMatch criteria ⟨[], [], [], ""⟩ row, fun query => ?_⟩
  rw [accepts_propertyCondition_iff]
  constructor
  · intro policy
    exact ⟨{ policy with query := queryPolicy_of_no_entries "" }, policy.query⟩
  · rintro ⟨policy, asked⟩
    exact { policy with query := asked }

/-- A search for users is its criteria, which the query does not touch, and its query. -/
theorem accepts_userCondition_split (termMatch : TermMatch) (criteria : UserCriteria) (row : Row) :
    ∃ met : Prop, ∀ query, (userCondition termMatch criteria query).accepts row = true ↔
      met ∧ QueryPolicy termMatch [.firstName, .lastName, .email] [.firstName, .lastName, .email]
        [.firstName, .lastName, .email] query row := by
  refine ⟨UserPolicy termMatch criteria ⟨[], [], [], ""⟩ row, fun query => ?_⟩
  rw [accepts_userCondition_iff]
  constructor
  · intro policy
    exact ⟨{ policy with query := queryPolicy_of_no_entries "" }, policy.query⟩
  · rintro ⟨policy, asked⟩
    exact { policy with query := asked }

variable {search : Query → Bool} {met : Prop} {whole swapped first second : Query}

/-- The order of the entries does not matter. `met` stands for the criteria of either kind of
record. -/
theorem search_eq_of_isJoin_swap
    (split : ∀ query, search query = true ↔
      met ∧ QueryPolicy termMatch phraseFields termFields exclusionFields query row)
    (join : IsJoin whole first second) (join' : IsJoin swapped second first) :
    search whole = search swapped := by
  rw [Bool.eq_iff_iff, split, split]
  constructor
  · rintro ⟨criteria, policy⟩
    exact ⟨criteria, policy.of_isJoin_swap join join'⟩
  · rintro ⟨criteria, policy⟩
    exact ⟨criteria, policy.of_isJoin_swap join' join⟩

/-- Criteria that stay the same may be asked for once or twice. -/
theorem search_all_of_isJoin
    (split : ∀ query, search query = true ↔
      met ∧ QueryPolicy .all phraseFields termFields exclusionFields query row)
    (join : IsJoin whole first second) :
    search whole = true ↔ search first = true ∧ search second = true := by
  rw [split, split, split, queryPolicy_all_of_isJoin join]
  constructor
  · rintro ⟨criteria, policy, policy'⟩
    exact ⟨⟨criteria, policy⟩, criteria, policy'⟩
  · rintro ⟨⟨criteria, policy⟩, -, policy'⟩
    exact ⟨criteria, policy, policy'⟩

/-- A text whose quotes come in pairs and a text after it ask for the entries of both. If the second
one has its quotes in pairs too, the search accepts the same rows with the two texts the other way
round. Where all terms are asked for, it accepts the rows that the searches for both texts accept. -/
theorem parse_join_decides (policy : TermPolicy) {first : String}
    (paired : Even (first.toList.count '"')) (second : String) :
    let joined := parse policy (first ++ " " ++ second)
    IsJoin joined (parse policy first) (parse policy second) ∧
      (Even (second.toList.count '"') → ∀ termMatch row,
        let swapped := parse policy (second ++ " " ++ first)
        (∀ criteria, (propertyCondition termMatch criteria joined).accepts row =
            (propertyCondition termMatch criteria swapped).accepts row) ∧
          ∀ criteria, (userCondition termMatch criteria joined).accepts row =
            (userCondition termMatch criteria swapped).accepts row) ∧
      ∀ row,
        (∀ criteria, (propertyCondition .all criteria joined).accepts row = true ↔
            (propertyCondition .all criteria (parse policy first)).accepts row = true ∧
              (propertyCondition .all criteria (parse policy second)).accepts row = true) ∧
          ∀ criteria, (userCondition .all criteria joined).accepts row = true ↔
            (userCondition .all criteria (parse policy first)).accepts row = true ∧
              (userCondition .all criteria (parse policy second)).accepts row = true := by
  have join := isJoin_parse policy paired second
  refine ⟨join, ?_, ?_⟩
  · intro paired' termMatch row
    have join' := isJoin_parse policy paired' first
    constructor
    · intro criteria
      -- Both kinds of search are criteria, which the query does not touch, and the policy of the
      -- query.
      obtain ⟨met, split⟩ := accepts_propertyCondition_split termMatch criteria row
      exact search_eq_of_isJoin_swap split join join'
    · intro criteria
      obtain ⟨met, split⟩ := accepts_userCondition_split termMatch criteria row
      exact search_eq_of_isJoin_swap split join join'
  · intro row
    constructor
    · intro criteria
      obtain ⟨met, split⟩ := accepts_propertyCondition_split .all criteria row
      exact search_all_of_isJoin split join
    · intro criteria
      obtain ⟨met, split⟩ := accepts_userCondition_split .all criteria row
      exact search_all_of_isJoin split join

/-- A phrase and an exclusion in front of a term and a phrase, for a property in Paris. -/
theorem parse_join_decides_vue :
    let property := { Property.blank with title := some "T2 belle vue", city := some "Paris" }
    let policy : TermPolicy := ⟨["t2"], ⟨.empty⟩⟩
    let first := "\"belle vue\" -meublé"
    let second := "t2 \"paris\""
    let joined := parse policy (first ++ " " ++ second)
    let swapped := parse policy (second ++ " " ++ first)
    Even (first.toList.count '"') ∧ Even (second.toList.count '"') ∧
      IsJoin joined (parse policy first) (parse policy second) ∧
      (propertyCondition .any .blank joined).accepts property.row =
        (propertyCondition .any .blank swapped).accepts property.row ∧
      ((propertyCondition .all .blank joined).accepts property.row = true ↔
        (propertyCondition .all .blank (parse policy first)).accepts property.row = true ∧
          (propertyCondition .all .blank (parse policy second)).accepts property.row = true) := by
  intro property policy first second joined swapped
  have paired : Even (first.toList.count '"') := by decide
  have paired' : Even (second.toList.count '"') := by decide
  obtain ⟨join, either, both⟩ := parse_join_decides policy paired second
  exact ⟨paired, paired', join, (either paired' .any property.row).1 .blank,
    (both property.row).1 .blank⟩

end EstateSearch.Search
