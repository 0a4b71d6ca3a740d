import EstateSearch.Proofs.Condition.Groups
import EstateSearch.Search

/-!
# The matching policy of searches

What a search asks of a record, criterion by criterion and entry by entry, without conditions and
groups: `PropertyPolicy` and `UserPolicy`. The condition of a search accepts exactly the rows that
meet the policy (`accepts_iff_policy`). Rows may hold any value in any field, and the query may be
any three lists.
-/

set_option autoImplicit false

namespace EstateSearch.Search

open Condition

/-! ### The policy -/

/-- The field holds a text that contains the term, both in lowercase. -/
def Mentions (row : Row) (field : Field) (term : String) : Prop :=
  ∃ content, row field = .text content ∧
    Text.lowercase term.toList <:+: Text.lowercase content.toList

/-- The value can be compared with the bound and does not come before it. -/
def Reaches (held bound : Value) : Prop :=
  ∃ order, held.order? bound = some order ∧ order ≠ .lt

/-- The value can be compared with the bound and does not come after it. -/
def StaysWithin (held bound : Value) : Prop :=
  ∃ order, held.order? bound = some order ∧ order ≠ .gt

/-- What a query asks of a row, each part in its own fields. -/
structure QueryPolicy (termMatch : TermMatch) (phraseFields termFields exclusionFields : List Field)
    (query : Query) (row : Row) : Prop where
  phrases : ∀ phrase ∈ query.phrases, ∃ field ∈ phraseFields, Mentions row field phrase
  terms : query.terms = [] ∨
    (termMatch = .any ∧ ∃ term ∈ query.terms, ∃ field ∈ termFields, Mentions row field term) ∨
    (termMatch = .all ∧ ∀ term ∈ query.terms, ∃ field ∈ termFields, Mentions row field term)
  exclusions : ∀ term ∈ query.exclusions, ∀ field ∈ exclusionFields, ¬ Mentions row field term

/-- What a search for properties asks of a row. -/
structure PropertyPolicy (termMatch : TermMatch) (criteria : PropertyCriteria) (query : Query)
    (row : Row) : Prop where
  organization : ∀ id ∈ criteria.organizationId, (row .organizationId).equals (.integer id)
  assignedUser : ∀ id ∈ criteria.assignedUserId, (row .assignedUserId).equals (.integer id)
  team : ∀ id ∈ criteria.teamId, (row .teamId).equals (.integer id)
  status : ∀ name ∈ criteria.status, (row .status).equals (.text name)
  kind : ∀ name ∈ criteria.kind, (row .kind).equals (.text name)
  city : ∀ name ∈ criteria.city, (row .city).equals (.text name)
  country : ∀ name ∈ criteria.country, (row .country).equals (.text name)
  bedrooms : ∀ count ∈ criteria.bedrooms, (row .bedrooms).equals (.integer count)
  bathrooms : ∀ count ∈ criteria.bathrooms, (row .bathrooms).equals (.integer count)
  priceMin : ∀ price ∈ criteria.priceMin, Reaches (row .price) (.number price)
  priceMax : ∀ price ∈ criteria.priceMax, StaysWithin (row .price) (.number price)
  surfaceMin : ∀ surface ∈ criteria.surfaceMin, Reaches (row .surface) (.number surface)
  surfaceMax : ∀ surface ∈ criteria.surfaceMax, StaysWithin (row .surface) (.number surface)
  active : (row .active).equals (.boolean (criteria.active.getD true))
  createdAfter : ∀ time ∈ criteria.createdAfter, Reaches (row .createdAt) (.instant time)
  createdBefore : ∀ time ∈ criteria.createdBefore, StaysWithin (row .createdAt) (.instant time)
  query : QueryPolicy termMatch [.title, .description, .city]
    [.title, .description, .city, .address] [.title, .description, .city] query row

/-- What a search for users asks of a row. -/
structure UserPolicy (termMatch : TermMatch) (criteria : UserCriteria) (query : Query)
    (row : Row) : Prop where
  organization : ∀ id ∈ criteria.organizationId, (row .organizationId).equals (.integer id)
  role : ∀ name ∈ criteria.role, (row .role).equals (.text name)
  active : (row .active).equals (.boolean (criteria.active.getD true))
  query : QueryPolicy termMatch [.firstName, .lastName, .email] [.firstName, .lastName, .email]
    [.firstName, .lastName, .email] query row

/-! ### Decisions of the parts -/

variable (row : Row)

theorem accepts_mentions_iff (field : Field) (term : String) :
    (mentions field term).accepts row = true ↔ Mentions row field term := by
  rw [mentions, accepts, Mentions, Text.lower]
  cases row field with
  | text content => simp [Value.contains, Text.occursIn_iff]
  | _ => simp [Value.contains]

/-- A text match in several fields is met if one of them mentions the term. -/
theorem accepts_mentionsIn_iff {fields : List Field} (nonempty : fields ≠ []) (term : String) :
    (mentionsIn fields term).accepts row = true ↔ ∃ field ∈ fields, Mentions row field term := by
  have notEmpty : (fields.map fun field => mentions field term).isEmpty = false := by
    simpa using nonempty
  rw [mentionsIn, accepts_anyOf, notEmpty, Bool.false_or, List.any_map, List.any_eq_true]
  exact exists_congr fun field => and_congr_right fun _ => accepts_mentions_iff row field term

/-- A criterion that is not set asks for nothing. -/
theorem accepts_whenSet_iff {α : Type} (compare : Field → Value → Condition) (make : α → Value)
    (field : Field) (criterion : Option α) :
    (whenSet compare make field criterion).accepts row = true ↔
      ∀ a ∈ criterion, (compare field (make a)).accepts row = true := by
  cases criterion <;> simp [whenSet]

theorem holds_atLeast_iff (held bound : Value) :
    Comparison.atLeast.holds held bound = true ↔ Reaches held bound := by
  rw [Comparison.holds, Reaches]
  cases held.order? bound with
  | none => simp
  | some order => cases order <;> simp

theorem holds_atMost_iff (held bound : Value) :
    Comparison.atMost.holds held bound = true ↔ StaysWithin held bound := by
  rw [Comparison.holds, StaysWithin]
  cases held.order? bound with
  | none => simp
  | some order => cases order <;> simp

/-- Each bound that is set is asked for on its own. -/
theorem accepts_within_iff {α : Type} (make : α → Value) (field : Field) (least most : Option α) :
    (within make field least most).accepts row = true ↔
      (∀ bound ∈ least, Reaches (row field) (make bound)) ∧
        ∀ bound ∈ most, StaysWithin (row field) (make bound) := by
  rw [within, accepts_allOf]
  simp only [List.all_cons, List.all_nil, Bool.and_true, Bool.and_eq_true, accepts_whenSet_iff,
    atLeast, atMost, accepts, holds_atLeast_iff, holds_atMost_iff]

theorem accepts_all_mentionsIn_iff {fields : List Field} (nonempty : fields ≠ [])
    (entries : List String) :
    (entries.map (mentionsIn fields)).all (accepts row) = true ↔
      ∀ entry ∈ entries, ∃ field ∈ fields, Mentions row field entry := by
  rw [List.all_map, List.all_eq_true]
  exact forall₂_congr fun entry _ => accepts_mentionsIn_iff row nonempty entry

theorem accepts_any_mentionsIn_iff {fields : List Field} (nonempty : fields ≠ [])
    (entries : List String) :
    (entries.map (mentionsIn fields)).any (accepts row) = true ↔
      ∃ entry ∈ entries, ∃ field ∈ fields, Mentions row field entry := by
  rw [List.any_map, List.any_eq_true]
  exact exists_congr fun entry => and_congr_right fun _ =>
    accepts_mentionsIn_iff row nonempty entry

theorem accepts_no_mentionsIn_iff {fields : List Field} (nonempty : fields ≠ [])
    (entries : List String) :
    (entries.map fun entry => negate (mentionsIn fields entry)).all (accepts row) = true ↔
      ∀ entry ∈ entries, ∀ field ∈ fields, ¬ Mentions row field entry := by
  rw [List.all_map, List.all_eq_true]
  refine forall₂_congr fun entry _ => ?_
  rw [Function.comp, accepts_negate, Bool.not_eq_true', ← Bool.not_eq_true,
    accepts_mentionsIn_iff row nonempty entry]
  simp only [not_exists, not_and]

/-- The condition of a query is its policy. Without fields a group of alternatives would hold
always, so each part must have one. -/
theorem accepts_queryCondition_iff (termMatch : TermMatch) (fields : LookupFields) (query : Query)
    (phraseField : fields.phrases ≠ []) (termField : fields.terms ≠ [])
    (exclusionField : fields.exclusions ≠ []) :
    (queryCondition termMatch fields query).accepts row = true ↔
      QueryPolicy termMatch fields.phrases fields.terms fields.exclusions query row := by
  have phrases := accepts_all_mentionsIn_iff row phraseField query.phrases
  have exclusions := accepts_no_mentionsIn_iff row exclusionField query.exclusions
  unfold queryCondition
  rw [accepts_allOf]
  simp only [List.all_cons, List.all_nil, Bool.and_true, Bool.and_eq_true]
  rw [accepts_allOf, accepts_allOf, phrases, exclusions]
  -- Without terms both ways to match them ask for nothing, which is the middle part of the policy.
  cases termMatch with
  | any =>
    have someTerm := accepts_any_mentionsIn_iff row termField query.terms
    rw [accepts_anyOf, Bool.or_eq_true, someTerm]
    constructor
    · rintro ⟨phrases, terms, exclusions⟩
      exact ⟨phrases, terms.imp (by simp) fun found => .inl ⟨rfl, found⟩, exclusions⟩
    · rintro ⟨phrases, empty | ⟨-, found⟩ | ⟨other, -⟩, exclusions⟩
      · exact ⟨phrases, .inl (by simp [empty]), exclusions⟩
      · exact ⟨phrases, .inr found, exclusions⟩
      · cases other
  | all =>
    have everyTerm := accepts_all_mentionsIn_iff row termField query.terms
    rw [accepts_allOf, everyTerm]
    constructor
    · rintro ⟨phrases, terms, exclusions⟩
      exact ⟨phrases, .inr (.inr ⟨rfl, terms⟩), exclusions⟩
    · rintro ⟨phrases, empty | ⟨other, -⟩ | ⟨-, found⟩, exclusions⟩
      · exact ⟨phrases, by simp [empty], exclusions⟩
      · cases other
      · exact ⟨phrases, found, exclusions⟩

/-! ### The searches -/

theorem accepts_equal_whenSet_iff {α : Type} (make : α → Value) (field : Field)
    (criterion : Option α) :
    (whenSet equal make field criterion).accepts row = true ↔
      ∀ a ∈ criterion, (row field).equals (make a) = true :=
  accepts_whenSet_iff row equal make field criterion

theorem accepts_activity_iff (active : Option Bool) :
    (activity active).accepts row = true ↔
      (row .active).equals (.boolean (active.getD true)) = true := Iff.rfl

/-- The condition of a search for properties is its policy. -/
theorem accepts_propertyCondition_iff (termMatch : TermMatch) (criteria : PropertyCriteria)
    (query : Query) :
    (propertyCondition termMatch criteria query).accepts row = true ↔
      PropertyPolicy termMatch criteria query row := by
  rw [propertyCondition, accepts_allOf]
  simp only [List.all_cons, List.all_nil, Bool.and_true, Bool.and_eq_true,
    accepts_equal_whenSet_iff, accepts_within_iff, accepts_activity_iff]
  rw [accepts_queryCondition_iff row termMatch propertyFields query (by simp [propertyFields])
    (by simp [propertyFields]) (by simp [propertyFields])]
  constructor
  · rintro ⟨organization, assignedUser, team, status, kind, city, country, bedrooms, bathrooms,
      ⟨priceMin, priceMax⟩, ⟨surfaceMin, surfaceMax⟩, active, ⟨after, before⟩, query⟩
    exact ⟨organization, assignedUser, team, status, kind, city, country, bedrooms, bathrooms,
      priceMin, priceMax, surfaceMin, surfaceMax, active, after, before, query⟩
  · intro policy
    exact ⟨policy.organization, policy.assignedUser, policy.team, policy.status, policy.kind,
      policy.city, policy.country, policy.bedrooms, policy.bathrooms,
      ⟨policy.priceMin, policy.priceMax⟩, ⟨policy.surfaceMin, policy.surfaceMax⟩, policy.active,
      ⟨policy.createdAfter, policy.createdBefore⟩, policy.query⟩

/-- The condition of a search for users is its policy. -/
theorem accepts_userCondition_iff (termMatch : TermMatch) (criteria : UserCriteria)
    (query : Query) :
    (userCondition termMatch criteria query).accepts row = true ↔
      UserPolicy termMatch criteria query row := by
  rw [userCondition, accepts_allOf]
  simp only [List.all_cons, List.all_nil, Bool.and_true, Bool.and_eq_true,
    accepts_equal_whenSet_iff, accepts_activity_iff]
  rw [accepts_queryCondition_iff row termMatch userFields query (by simp [userFields])
    (by simp [userFields]) (by simp [userFields])]
  constructor
  · rintro ⟨organization, role, active, query⟩
    exact ⟨organization, role, active, query⟩
  · intro policy
    exact ⟨policy.organization, policy.role, policy.active, policy.query⟩

/-- The condition of a search accepts exactly the rows that the policy allows, for both kinds of
records. -/
theorem accepts_iff_policy (termMatch : TermMatch) (criteria : PropertyCriteria)
    (userCriteria : UserCriteria) (query : Query) :
    ((propertyCondition termMatch criteria query).accepts row = true ↔
        PropertyPolicy termMatch criteria query row) ∧
      ((userCondition termMatch userCriteria query).accepts row = true ↔
        UserPolicy termMatch userCriteria query row) :=
  ⟨accepts_propertyCondition_iff row termMatch criteria query,
    accepts_userCondition_iff row termMatch userCriteria query⟩

end EstateSearch.Search
