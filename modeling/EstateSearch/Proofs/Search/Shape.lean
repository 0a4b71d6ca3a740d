import EstateSearch.Proofs.Query.Join
import EstateSearch.Proofs.Sql.Shape
import EstateSearch.Search

/-!
# What the text of a search depends on

The shape of a search is fixed by which criteria are set (`SetAlike`) and by how many entries of each
kind the query has (`CountsAlike`). So these alone decide on the text of its fragment, and nothing
that a user typed can be seen in it (`text_hides_values`).
-/

set_option autoImplicit false

namespace EstateSearch.Search

open Condition Sql

/-! ### What is set and how much is asked for -/

/-- The same criteria are set. Activity is not among them, as it is always asked for. -/
structure PropertySetAlike (criteria other : PropertyCriteria) : Prop where
  organizationId : criteria.organizationId.isSome = other.organizationId.isSome
  assignedUserId : criteria.assignedUserId.isSome = other.assignedUserId.isSome
  teamId : criteria.teamId.isSome = other.teamId.isSome
  status : criteria.status.isSome = other.status.isSome
  kind : criteria.kind.isSome = other.kind.isSome
  city : criteria.city.isSome = other.city.isSome
  country : criteria.country.isSome = other.country.isSome
  priceMin : criteria.priceMin.isSome = other.priceMin.isSome
  priceMax : criteria.priceMax.isSome = other.priceMax.isSome
  surfaceMin : criteria.surfaceMin.isSome = other.surfaceMin.isSome
  surfaceMax : criteria.surfaceMax.isSome = other.surfaceMax.isSome
  bedrooms : criteria.bedrooms.isSome = other.bedrooms.isSome
  bathrooms : criteria.bathrooms.isSome = other.bathrooms.isSome
  createdAfter : criteria.createdAfter.isSome = other.createdAfter.isSome
  createdBefore : criteria.createdBefore.isSome = other.createdBefore.isSome

structure UserSetAlike (criteria other : UserCriteria) : Prop where
  organizationId : criteria.organizationId.isSome = other.organizationId.isSome
  role : criteria.role.isSome = other.role.isSome

/-- Of each kind the two queries have the same number of entries. -/
structure CountsAlike (query other : Query) : Prop where
  phrases : query.phrases.length = other.phrases.length
  terms : query.terms.length = other.terms.length
  exclusions : query.exclusions.length = other.exclusions.length

/-! ### Queries -/

theorem sameShapes_map {make : String → Condition}
    (h : ∀ entry entry', SameShape (make entry) (make entry')) {entries entries' : List String}
    (length : entries.length = entries'.length) :
    SameShapes (entries.map make) (entries'.map make) := by
  rw [SameShapes, List.forall₂_map_left_iff, List.forall₂_map_right_iff, List.forall₂_iff_zip]
  exact ⟨length, fun _ => h _ _⟩

theorem sameShape_mentionsIn (fields : List Field) (needle needle' : String) :
    SameShape (mentionsIn fields needle) (mentionsIn fields needle') := by
  refine sameShape_anyOf ?_
  rw [SameShapes, List.forall₂_map_left_iff, List.forall₂_map_right_iff, List.forall₂_same]
  exact fun field _ => sameShape_mentions field needle needle'

/-- Of a query only the numbers of its entries show in the shape. -/
theorem sameShape_queryCondition (termMatch : TermMatch) (fields : LookupFields)
    {query other : Query} (counts : CountsAlike query other) :
    SameShape (queryCondition termMatch fields query) (queryCondition termMatch fields other) := by
  have phrases := sameShapes_map (sameShape_mentionsIn fields.phrases) counts.phrases
  have terms := sameShapes_map (sameShape_mentionsIn fields.terms) counts.terms
  have exclusions := sameShapes_map
    (fun term term' => sameShape_negate (sameShape_mentionsIn fields.exclusions term term'))
    counts.exclusions
  refine sameShape_allOf (.cons (sameShape_allOf phrases) (.cons ?_
    (.cons (sameShape_allOf exclusions) .nil)))
  cases termMatch with
  | any => exact sameShape_anyOf terms
  | all => exact sameShape_allOf terms

/-! ### Criteria -/

section Criteria

variable {α : Type} {wrap : α → Value} {criterion criterion' : Option α}

/-- Of a criterion only whether it is set shows in the shape. -/
theorem sameShape_whenSet (known : ∀ a, wrap a ≠ .missing) (comparison : Comparison)
    (field : Field) (set : criterion.isSome = criterion'.isSome) :
    SameShape (whenSet (compare comparison) wrap field criterion)
      (whenSet (compare comparison) wrap field criterion') := by
  cases criterion with
  | none =>
    cases criterion' with
    | none => exact .always
    | some b => cases set
  | some a =>
    cases criterion' with
    | none => cases set
    | some b => exact .compare comparison field (iff_of_false (known a) (known b))

theorem sameShape_within (known : ∀ a, wrap a ≠ .missing) (field : Field)
    {least least' most most' : Option α} (setLeast : least.isSome = least'.isSome)
    (setMost : most.isSome = most'.isSome) :
    SameShape (within wrap field least most) (within wrap field least' most') :=
  sameShape_allOf (.cons (sameShape_whenSet known .atLeast field setLeast)
    (.cons (sameShape_whenSet known .atMost field setMost) .nil))

end Criteria

theorem sameShape_activity (active active' : Option Bool) :
    SameShape (activity active) (activity active') :=
  .compare .equal .active (by simp)

/-! ### Searches -/

/-- Alike criteria and queries make searches for properties of one shape. -/
theorem sameShape_propertyCondition (termMatch : TermMatch) {criteria other : PropertyCriteria}
    {query query' : Query} (set : PropertySetAlike criteria other)
    (counts : CountsAlike query query') :
    SameShape (propertyCondition termMatch criteria query)
      (propertyCondition termMatch other query') := by
  have equals {α : Type} {wrap : α → Value} (known : ∀ a, wrap a ≠ .missing) (field : Field)
      {criterion criterion' : Option α} (set : criterion.isSome = criterion'.isSome) :
      SameShape (whenSet equal wrap field criterion) (whenSet equal wrap field criterion') :=
    sameShape_whenSet known .equal field set
  have integers : ∀ i, Value.integer i ≠ .missing := by simp
  have texts : ∀ s, Value.text s ≠ .missing := by simp
  have numbers : ∀ x, Value.number x ≠ .missing := by simp
  have instants : ∀ t, Value.instant t ≠ .missing := by simp
  refine sameShape_allOf ?_
  repeat' apply List.Forall₂.cons
  · exact equals integers .organizationId set.organizationId
  · exact equals integers .assignedUserId set.assignedUserId
  · exact equals integers .teamId set.teamId
  · exact equals texts .status set.status
  · exact equals texts .kind set.kind
  · exact equals texts .city set.city
  · exact equals texts .country set.country
  · exact equals integers .bedrooms set.bedrooms
  · exact equals integers .bathrooms set.bathrooms
  · exact sameShape_within numbers .price set.priceMin set.priceMax
  · exact sameShape_within numbers .surface set.surfaceMin set.surfaceMax
  · exact sameShape_activity criteria.active other.active
  · exact sameShape_within instants .createdAt set.createdAfter set.createdBefore
  · exact sameShape_queryCondition termMatch propertyFields counts
  · exact .nil

theorem sameShape_userCondition (termMatch : TermMatch) {criteria other : UserCriteria}
    {query query' : Query} (set : UserSetAlike criteria other)
    (counts : CountsAlike query query') :
    SameShape (userCondition termMatch criteria query)
      (userCondition termMatch other query') := by
  refine sameShape_allOf ?_
  repeat' apply List.Forall₂.cons
  · exact sameShape_whenSet (by simp) .equal .organizationId set.organizationId
  · exact sameShape_whenSet (by simp) .equal .role set.role
  · exact sameShape_activity criteria.active other.active
  · exact sameShape_queryCondition termMatch userFields counts
  · exact .nil

/-- Conditions of the same shape have the same text, whatever needles and values they hold. So have
two searches in which the same criteria are set, for any two texts that ask for the same numbers of
phrases, terms and exclusions. -/
theorem text_hides_values (offset : Nat) :
    (∀ condition other, SameShape condition other →
      (Fragment.ofCondition offset condition).text = (Fragment.ofCondition offset other).text) ∧
    ∀ termMatch query query', CountsAlike query query' →
      (∀ criteria other, PropertySetAlike criteria other →
        (Fragment.ofCondition offset (propertyCondition termMatch criteria query)).text =
          (Fragment.ofCondition offset (propertyCondition termMatch other query')).text) ∧
      ∀ criteria other, UserSetAlike criteria other →
        (Fragment.ofCondition offset (userCondition termMatch criteria query)).text =
          (Fragment.ofCondition offset (userCondition termMatch other query')).text := by
  refine ⟨fun condition other shape => text_eq_of_sameShape shape offset, ?_⟩
  intro termMatch query query' counts
  constructor
  · intro criteria other set
    exact text_eq_of_sameShape (sameShape_propertyCondition termMatch set counts) offset
  · intro criteria other set
    exact text_eq_of_sameShape (sameShape_userCondition termMatch set counts) offset

/-- A negated group, a search for properties and one for users, each next to one whose texts look
like SQL. -/
theorem text_hides_values_quoted :
    let condition := .not (.any [.contains .title "vue", .compare .equal .city .missing])
    let condition' := .not (.any [.contains .title "') OR 1=1", .compare .equal .city .missing])
    let policy : TermPolicy := ⟨["t2"], ⟨.empty⟩⟩
    let query := Query.parse policy "\"belle vue\" villa -meublé"
    let query' := Query.parse policy "\"' OR 1=1 --\" $1; -%"
    let criteria := { PropertyCriteria.blank with city := some "paris" }
    let criteria' := { PropertyCriteria.blank with city := some "'); --", active := some false }
    let users := { UserCriteria.blank with role := some "agent" }
    let users' := { UserCriteria.blank with role := some "$2" }
    SameShape condition condition' ∧ CountsAlike query query' ∧
      PropertySetAlike criteria criteria' ∧ UserSetAlike users users' ∧
      (Fragment.ofCondition 2 condition).text = (Fragment.ofCondition 2 condition').text ∧
      (Fragment.ofCondition 2 (propertyCondition .any criteria query)).text =
        (Fragment.ofCondition 2 (propertyCondition .any criteria' query')).text ∧
      (Fragment.ofCondition 2 (userCondition .all users query)).text =
        (Fragment.ofCondition 2 (userCondition .all users' query')).text := by
  intro condition condition' policy query query' criteria criteria' users users'
  have shape : SameShape condition condition' :=
    .not (SameShapes.any (.cons (.contains .title _ _) (.cons (.compare .equal .city Iff.rfl) .nil)))
  have read (text : String) : Query.parse policy text = Query.grammar policy text :=
    (Query.parse_eq_walks policy text).trans (Query.walks_eq_grammar policy text)
  have counts : CountsAlike query query' := by
    simp only [query, query', read]
    constructor
    · decide +kernel
    · decide +kernel
    · decide +kernel
  have set : PropertySetAlike criteria criteria' :=
    ⟨rfl, rfl, rfl, rfl, rfl, rfl, rfl, rfl, rfl, rfl, rfl, rfl, rfl, rfl, rfl⟩
  have set' : UserSetAlike users users' := ⟨rfl, rfl⟩
  have ofProperties := ((text_hides_values 2).2 .any query query' counts).1
  have ofUsers := ((text_hides_values 2).2 .all query query' counts).2
  exact ⟨shape, counts, set, set', (text_hides_values 2).1 condition condition' shape,
    ofProperties criteria criteria' set, ofUsers users users' set'⟩

end EstateSearch.Search
