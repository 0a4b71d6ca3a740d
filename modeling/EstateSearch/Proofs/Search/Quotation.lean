import EstateSearch.Proofs.Query.Fragments
import EstateSearch.Proofs.Search.LetterCase
import EstateSearch.Settings.Basic
import Mathlib.Data.List.ReduceOption

/-!
# Searches for a quoted passage

Who quotes a passage of a listing finds the listing, as long as the passage has in its place the
lowercase that it has on its own (`finds_quoted_passage`). Phrase and text are lowercased apart, and
a capital sigma at the end of a word becomes another letter than one inside of a word. So a passage
that stops in the middle of a word may be missed behind a capital sigma, though it stands there
letter for letter (`misses_quoted_passage`).
-/

set_option autoImplicit false

namespace EstateSearch

/-- The texts of a property that phrases are looked for in. -/
def Property.phraseTexts (property : Property) : List String :=
  [property.title, property.description, property.city].reduceOption

namespace Search

open Query Text

/-! ### Searches without criteria -/

/-- Without criteria a property must be active and meet the query. -/
theorem propertyPolicy_blank_iff {termMatch : TermMatch} {query : Query} {row : Row} :
    PropertyPolicy termMatch .blank query row ↔
      (row .active).equals (.boolean true) = true ∧
        QueryPolicy termMatch [.title, .description, .city]
          [.title, .description, .city, .address] [.title, .description, .city] query row := by
  have unset {α : Type} {met : α → Prop} : ∀ a ∈ (none : Option α), met a := by simp
  constructor
  · exact fun policy => ⟨policy.active, policy.query⟩
  · rintro ⟨active, query⟩
    exact ⟨unset, unset, unset, unset, unset, unset, unset, unset, unset, unset, unset, unset,
      unset, active, unset, unset, query⟩

/-! ### One phrase -/

variable {property : Property}

theorem mentions_ofOption_iff {row : Row} {field : Field} {content : Option String}
    (held : row field = .ofOption .text content) (term : String) :
    Mentions row field term ↔
      ∃ text ∈ content, lowercase term.toList <:+: lowercase text.toList := by
  cases content with
  | none => simp [Mentions, held, Value.ofOption]
  | some content => simp [mentions_text_iff held]

theorem exists_mentions_iff (phrase : String) :
    (∃ field ∈ [Field.title, .description, .city], Mentions property.row field phrase) ↔
      ∃ text ∈ property.phraseTexts, lowercase phrase.toList <:+: lowercase text.toList := by
  have title : Mentions property.row .title phrase ↔ _ := mentions_ofOption_iff rfl phrase
  have description : Mentions property.row .description phrase ↔ _ :=
    mentions_ofOption_iff rfl phrase
  have city : Mentions property.row .city phrase ↔ _ := mentions_ofOption_iff rfl phrase
  simp only [List.mem_cons, List.not_mem_nil, or_false, exists_eq_left, title, description,
    city, Property.phraseTexts, List.reduceOption_mem_iff, or_and_right, exists_or,
    Option.mem_def, eq_comm]

/-- The rows that meet a query of one phrase. -/
theorem queryPolicy_phrase_iff {termMatch : TermMatch}
    {phraseFields termFields exclusionFields : List Field} {query : Query} {phrase : String}
    {row : Row} (phrases : query.phrases = [phrase]) (terms : query.terms = [])
    (exclusions : query.exclusions = []) :
    QueryPolicy termMatch phraseFields termFields exclusionFields query row ↔
      ∃ field ∈ phraseFields, Mentions row field phrase := by
  constructor
  · intro policy
    exact policy.phrases phrase (by simp [phrases])
  · intro found
    exact ⟨by simpa [phrases] using found, .inl terms, by simp [exclusions]⟩

variable {inside : String}

/-- The search for a quotation finds an active property just if the lowercase of the passage stands
in the lowercase of one of its texts. -/
theorem accepts_quotation_iff (policy : TermPolicy) (termMatch : TermMatch)
    (noQuote : '"' ∉ inside.toList) (solid : isBlankText inside.toList = false)
    (active : property.active = true) :
    (propertyCondition termMatch .blank (parse policy ("\"" ++ inside ++ "\""))).accepts
        property.row = true ↔
      ∃ text ∈ property.phraseTexts, lowercase (trim inside.toList) <:+: lowercase text.toList := by
  obtain ⟨phrases, terms, exclusions⟩ := parse_quotation policy noQuote
  rw [if_neg (by simp [solid])] at phrases
  have isActive : (property.row .active).equals (.boolean true) = true := by
    simp [Property.row, active, Value.equals]
  rw [accepts_propertyCondition_iff, propertyPolicy_blank_iff,
    queryPolicy_phrase_iff phrases terms exclusions, exists_mentions_iff, String.toList_ofList,
    normalPhrase, lowercase_lowercase]
  exact and_iff_right isActive

/-! ### Quoted passages -/

/-- The search for a quoted passage finds an active property just if the lowercase of the passage
stands in the lowercase of one of its texts. So it finds the property if the passage itself stands
in the text and each of its capital sigmas ends a word there just if it does in the passage. -/
theorem finds_quoted_passage (policy : TermPolicy) (termMatch : TermMatch) (inside : String)
    (property : Property) (noQuote : '"' ∉ inside.toList)
    (solid : isBlankText inside.toList = false) (active : property.active = true) :
    let passage := trim inside.toList
    let found :=
      (propertyCondition termMatch .blank (parse policy ("\"" ++ inside ++ "\""))).accepts
        property.row = true
    (found ↔ ∃ text ∈ property.phraseTexts, lowercase passage <:+: lowercase text.toList) ∧
      ∀ text ∈ property.phraseTexts, ∀ before after,
        text.toList = before ++ passage ++ after → KeepsSigmas before.reverse passage after →
          found := by
  intro passage found
  have iff := accepts_quotation_iff policy termMatch noQuote solid active
  refine ⟨iff, ?_⟩
  intro text listed before after split keeps
  have stretch := lowercaseBetween_infix before passage after
  rw [(lowercaseBetween_eq_lowercase_iff _ _ _).2 keeps, ← split] at stretch
  exact iff.2 ⟨text, listed, stretch⟩

/-- A word of a title that ends with a sigma, and the beginning of another one up to its sigma. -/
theorem finds_quoted_passage_odos :
    let policy : TermPolicy := ⟨[], ⟨.empty⟩⟩
    let property := { Property.blank with title := some "ΟΔΟΣ ΑΘΗΝΑΣ 12" }
    let search (inside : String) :=
      propertyCondition .any .blank (parse policy ("\"" ++ inside ++ "\""))
    (search " ΟΔΟΣ ").accepts property.row = true ∧
      (search "ΑΘΗΝΑ").accepts property.row = true := by
  intro policy property search
  have listed : "ΟΔΟΣ ΑΘΗΝΑΣ 12" ∈ property.phraseTexts := List.mem_singleton_self _
  have borders : KeepsSigmas [] (trim " ΟΔΟΣ ".toList) " ΑΘΗΝΑΣ 12".toList :=
    keepsSigmas_of_borders rfl (by decide +kernel) _
  have noSigma : KeepsSigmas "ΟΔΟΣ ".toList.reverse (trim "ΑΘΗΝΑ".toList) "Σ 12".toList :=
    keepsSigmas_of_no_sigma (by decide) _ _
  have word := finds_quoted_passage policy .any " ΟΔΟΣ " property (by decide) (by decide) rfl
  have beginning := finds_quoted_passage policy .any "ΑΘΗΝΑ" property (by decide) (by decide) rfl
  exact ⟨word.2 _ listed [] _ (by decide) borders, beginning.2 _ listed _ _ (by decide) noSigma⟩

/-- The search for a street misses its road signs: the sigma of the quoted word is a final one, and
the title goes on behind it. -/
theorem misses_quoted_passage :
    ¬ ∀ policy, Settings.initial.termPolicy = .ok policy →
      ∀ (inside : String) (property : Property),
        '"' ∉ inside.toList → isBlankText inside.toList = false → property.active = true →
          (∃ text ∈ property.phraseTexts, trim inside.toList <:+: text.toList) →
            (propertyCondition Settings.initial.termMatch .blank
              (parse policy ("\"" ++ inside ++ "\""))).accepts property.row = true := by
  intro finds
  have readable : (Settings.initial.termPolicy).toBool = true := by decide +kernel
  obtain ⟨policy, initial⟩ : ∃ policy, Settings.initial.termPolicy = .ok policy := by
    cases outcome : Settings.initial.termPolicy with
    | ok policy => exact ⟨policy, rfl⟩
    | error problem =>
      rw [outcome] at readable
      cases readable
  let property := { Property.blank with title := some "ΟΔΟΣΗΜΑΝΣΗ" }
  have noQuote : '"' ∉ "ΟΔΟΣ".toList := by decide
  have solid : isBlankText "ΟΔΟΣ".toList = false := by decide
  -- The last letter of the phrase becomes a final sigma, the one inside of the title does not.
  have stands : ∃ text ∈ property.phraseTexts, trim "ΟΔΟΣ".toList <:+: text.toList := by decide
  have found := finds policy initial "ΟΔΟΣ" property noQuote solid rfl stands
  rw [accepts_quotation_iff policy _ noQuote solid rfl] at found
  exact absurd found (by decide +kernel)

end Search

end EstateSearch
