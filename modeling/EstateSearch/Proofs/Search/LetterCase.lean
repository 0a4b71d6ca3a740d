import EstateSearch.Proofs.Query.LetterCase
import EstateSearch.Proofs.Search.Policy

/-!
# Searches in lowercase

Letter case plays no part in a search for text: a text and its lowercase ask for the same, and they
find the same whether the texts of a property are in lowercase or not (`search_ignores_case`). The
city is left as it is, since a criterion may ask for this very name.
-/

set_option autoImplicit false

namespace EstateSearch

/-- The property with its title, description and address in lowercase. -/
def Property.lowered (property : Property) : Property :=
  { property with
    title := property.title.map Text.lower
    description := property.description.map Text.lower
    address := property.address.map Text.lower }

namespace Search

open Query

variable {termMatch : TermMatch} {phraseFields termFields exclusionFields : List Field}
  {query other : Query} {row row' : Row}

theorem mentions_text_iff {field : Field} {content : String} (held : row field = .text content)
    (term : String) :
    Mentions row field term ↔
      Text.lowercase term.toList <:+: Text.lowercase content.toList := by
  simp [Mentions, held]

/-- A field mentions what its lowercase does. -/
theorem mentions_lower_iff {field : Field} (content : Option String)
    (held : row field = .ofOption .text content)
    (held' : row' field = .ofOption .text (content.map Text.lower)) (term : String) :
    Mentions row' field term ↔ Mentions row field term := by
  cases content with
  | none => rw [Mentions, Mentions, held, held', Option.map_none]
  | some content =>
    rw [mentions_text_iff held, mentions_text_iff held', Text.lower, String.toList_ofList,
      Text.lowercase_lowercase]

/-- A property in lowercase mentions the same terms, as both sides are compared in lowercase. -/
theorem mentions_lowered_iff (property : Property) (field : Field) (term : String) :
    Mentions property.lowered.row field term ↔ Mentions property.row field term := by
  cases field with
  | title => exact mentions_lower_iff property.title rfl rfl term
  | description => exact mentions_lower_iff property.description rfl rfl term
  | address => exact mentions_lower_iff property.address rfl rfl term
  | _ => exact Iff.rfl

/-- A policy looks at nothing but the entries of the query and what the row mentions. -/
theorem QueryPolicy.congr
    (policy : QueryPolicy termMatch phraseFields termFields exclusionFields query row)
    (same : SameEntries other query)
    (mentions : ∀ field term, Mentions row' field term ↔ Mentions row field term) :
    QueryPolicy termMatch phraseFields termFields exclusionFields other row' where
  phrases := by simpa only [same.phrases, mentions] using policy.phrases
  terms := by simpa only [same.terms, mentions] using policy.terms
  exclusions := by simpa only [same.exclusions, mentions] using policy.exclusions

/-- Criteria do not look at title, description and address, so only the query is concerned. -/
theorem PropertyPolicy.lowered {criteria : PropertyCriteria} {property : Property}
    (policy : PropertyPolicy termMatch criteria query property.row)
    (same : SameEntries other query) :
    PropertyPolicy termMatch criteria other property.lowered.row :=
  { policy with query := policy.query.congr same (mentions_lowered_iff property) }

theorem PropertyPolicy.of_lowered {criteria : PropertyCriteria} {property : Property}
    (policy : PropertyPolicy termMatch criteria other property.lowered.row)
    (same : SameEntries query other) :
    PropertyPolicy termMatch criteria query property.row :=
  { policy with
    query := policy.query.congr same fun field term =>
      (mentions_lowered_iff property field term).symm }

/-- A text with paired quotes and its lowercase ask for the same, and the search for the one accepts
a property just if the search for the other accepts the property with its texts in lowercase. -/
theorem search_ignores_case (policy : TermPolicy) (termMatch : TermMatch)
    (criteria : PropertyCriteria) (property : Property) {text : String}
    (paired : Even (text.toList.count '"')) :
    SameEntries (parse policy text) (parse policy (Text.lower text)) ∧
      ((propertyCondition termMatch criteria (parse policy text)).accepts property.row = true ↔
        (propertyCondition termMatch criteria (parse policy (Text.lower text))).accepts
          property.lowered.row = true) := by
  have same := sameEntries_parse_lower policy paired
  refine ⟨same.symm, ?_⟩
  rw [accepts_propertyCondition_iff, accepts_propertyCondition_iff]
  constructor
  · exact fun accepted => accepted.lowered same
  · exact fun accepted => accepted.of_lowered same.symm

/-- Final sigmas in a phrase, a term and an exclusion, with a city that is asked for by name. -/
theorem search_ignores_case_odos :
    let property := { Property.blank with title := some "ΟΔΟΣ ΑΘΗΝΑΣ", city := some "ΑΘΗΝΑ" }
    let criteria := { PropertyCriteria.blank with city := some "ΑΘΗΝΑ" }
    let policy : TermPolicy := ⟨[], ⟨.empty⟩⟩
    let text := "\" ΟΔΟΣ \" ΑΘΗΝΑΣ -ΚΗΠΟΣ"
    Even (text.toList.count '"') ∧
      SameEntries (parse policy text) (parse policy (Text.lower text)) ∧
      (propertyCondition .all criteria (parse policy text)).accepts property.row = true ∧
      (propertyCondition .all criteria (parse policy (Text.lower text))).accepts
        property.lowered.row = true := by
  intro property criteria policy text
  have paired : Even (text.toList.count '"') := by decide
  have found :
      (propertyCondition .all criteria (parse policy text)).accepts property.row = true := by
    decide +kernel
  obtain ⟨same, alike⟩ := search_ignores_case policy .all criteria property paired
  exact ⟨paired, same, found, alike.1 found⟩

end Search

end EstateSearch
