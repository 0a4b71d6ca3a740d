import EstateSearch.Condition.Basic
import EstateSearch.Criteria
import EstateSearch.Query.Basic

/-!
# The condition of a search

Structured criteria and a query become one condition. Every set criterion is a conjunct; every
phrase has to be found in some text field, every exclusion in none, and of the terms one or all,
as the settings say.

Source: `search/src/predicate/compiler`.
-/

set_option autoImplicit false

namespace EstateSearch

/-- How several terms of a query combine. -/
inductive TermMatch where
  /-- one of the terms has to be found -/
  | any
  /-- all of the terms have to be found -/
  | all
  deriving DecidableEq, Repr

namespace Search

/-- The fields that each part of a query is looked for in. -/
structure LookupFields where
  phrases : List Field
  terms : List Field
  exclusions : List Field
  deriving Repr

/-- The text fields of properties; an address is looked at for terms only. -/
def propertyFields : LookupFields :=
  ⟨[.title, .description, .city], [.title, .description, .city, .address],
    [.title, .description, .city]⟩

def userFields : LookupFields :=
  ⟨[.firstName, .lastName, .email], [.firstName, .lastName, .email],
    [.firstName, .lastName, .email]⟩

def mentionsIn (fields : List Field) (needle : String) : Condition :=
  .anyOf (fields.map fun field => .mentions field needle)

/-- The condition of a query. -/
def queryCondition (termMatch : TermMatch) (fields : LookupFields) (query : Query) : Condition :=
  let terms := query.terms.map (mentionsIn fields.terms)
  .allOf
    [.allOf (query.phrases.map (mentionsIn fields.phrases)),
      (match termMatch with
        | .any => .anyOf terms
        | .all => .allOf terms),
      .allOf (query.exclusions.map fun term => .negate (mentionsIn fields.exclusions term))]

/-- The condition that a field equals a criterion, if the criterion is set. -/
def whenSet {α : Type} (compare : Field → Value → Condition) (make : α → Value) (field : Field) :
    Option α → Condition
  | some a => compare field (make a)
  | none => .always

/-- The condition that a field lies between two criteria, as far as they are set. -/
def within {α : Type} (make : α → Value) (field : Field) (least most : Option α) : Condition :=
  .allOf [whenSet .atLeast make field least, whenSet .atMost make field most]

/-- The condition on activity; only active records are searched unless said otherwise. -/
def activity (active : Option Bool) : Condition :=
  .equal .active (.boolean (active.getD true))

def propertyCondition (termMatch : TermMatch) (criteria : PropertyCriteria) (query : Query) :
    Condition :=
  .allOf
    [whenSet .equal .integer .organizationId criteria.organizationId,
      whenSet .equal .integer .assignedUserId criteria.assignedUserId,
      whenSet .equal .integer .teamId criteria.teamId,
      whenSet .equal .text .status criteria.status,
      whenSet .equal .text .kind criteria.kind,
      whenSet .equal .text .city criteria.city,
      whenSet .equal .text .country criteria.country,
      whenSet .equal .integer .bedrooms criteria.bedrooms,
      whenSet .equal .integer .bathrooms criteria.bathrooms,
      within .number .price criteria.priceMin criteria.priceMax,
      within .number .surface criteria.surfaceMin criteria.surfaceMax,
      activity criteria.active,
      within .instant .createdAt criteria.createdAfter criteria.createdBefore,
      queryCondition termMatch propertyFields query]

def userCondition (termMatch : TermMatch) (criteria : UserCriteria) (query : Query) : Condition :=
  .allOf
    [whenSet .equal .integer .organizationId criteria.organizationId,
      whenSet .equal .text .role criteria.role,
      activity criteria.active,
      queryCondition termMatch userFields query]

end Search

end EstateSearch
