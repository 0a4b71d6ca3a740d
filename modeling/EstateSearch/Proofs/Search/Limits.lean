import EstateSearch.Limits
import EstateSearch.Proofs.Except
import EstateSearch.Proofs.Search.Join
import EstateSearch.Proofs.Value.Order

/-!
# Checked criteria and the searches they make

The checks on criteria refuse ranges without inside, and the condition of a search accepts nothing
in such a range. The two do not know of each other; that they mean the same ranges is
`checks_fit_searches`.

* Criteria that pass the checks are sound (`Limits.checkCriteria_eq_ok_iff`), and from sound
  criteria a property can be made that meets them all: each field holds what is asked of it, or the
  lower bound, or else the upper one (`PropertyCriteria.fitting`). Amounts must be numbers for this.
  What is no number is not met by itself.
* Whatever a field holds, it does not lie on both sides of a reversed range: not an integer, which
  is rounded before it is compared, and not a value that cannot be compared at all.
-/

set_option autoImplicit false

namespace EstateSearch

/-! ### Sound criteria -/

/-- Some lower bound lies above the upper bound that goes with it. -/
def PropertyCriteria.IsReversed (criteria : PropertyCriteria) : Prop :=
  (∃ low ∈ criteria.priceMin, ∃ high ∈ criteria.priceMax, low.compare? high = some .gt) ∨
    (∃ low ∈ criteria.surfaceMin, ∃ high ∈ criteria.surfaceMax, low.compare? high = some .gt) ∨
    ∃ first ∈ criteria.createdAfter, ∃ last ∈ criteria.createdBefore, first.order last = .gt

namespace Limits

/-- What the checks promise of criteria that pass them. -/
structure IsSound (criteria : PropertyCriteria) : Prop where
  amounts : ∀ bound ∈ [criteria.priceMin, criteria.priceMax, criteria.surfaceMin,
    criteria.surfaceMax], ∀ amount ∈ bound, amount.isFinite = true ∧ 0 ≤ amount.rank
  counts : ∀ count ∈ [criteria.bedrooms, criteria.bathrooms], ∀ n ∈ count, 0 ≤ n.toInt
  ordered : ¬ criteria.IsReversed

/-- Amounts pass just if they are finite and not below zero; a negative zero passes. -/
theorem checkAmount_eq_ok_iff (criterion : String) (bound : Option Binary64) :
    checkAmount criterion bound = .ok () ↔
      ∀ amount ∈ bound, amount.isFinite = true ∧ 0 ≤ amount.rank := by
  cases bound with
  | none => simp [checkAmount]
  | some amount =>
    rw [checkAmount]
    cases finite : amount.isFinite
    · simp [finite]
    · by_cases negative : amount.rank < 0
      · simp [negative]
      · simp [negative, finite, Int.not_lt.1 negative]

theorem checkCount_eq_ok_iff (criterion : String) (count : Option Int64) :
    checkCount criterion count = .ok () ↔ ∀ n ∈ count, 0 ≤ n.toInt := by
  cases count with
  | none => simp [checkCount]
  | some n =>
    rw [checkCount]
    by_cases negative : n.toInt < 0
    · simp [negative]
    · simp [negative, Int.not_lt.1 negative]

/-- Bounds pass just if they are not out of order; a bound that is no number is left to the other
check. -/
theorem checkNumbers_eq_ok_iff (least greatest : String) (low high : Option Binary64) :
    checkNumbers least greatest low high = .ok () ↔
      ¬ ∃ x ∈ low, ∃ y ∈ high, x.compare? y = some .gt := by
  cases low <;> cases high <;> simp [checkNumbers]

theorem checkInstants_eq_ok_iff (earliest latest : String) (first last : Option Instant) :
    checkInstants earliest latest first last = .ok () ↔
      ¬ ∃ s ∈ first, ∃ t ∈ last, s.order t = .gt := by
  cases first <;> cases last <;> simp [checkInstants]

/-- The checks pass just the criteria that are sound. -/
theorem checkCriteria_eq_ok_iff (criteria : PropertyCriteria) :
    checkCriteria criteria = .ok () ↔ IsSound criteria := by
  unfold checkCriteria
  simp only [bind_eq_ok_iff, Unique.exists_iff, PUnit.default_eq_unit,
    checkAmount_eq_ok_iff, checkCount_eq_ok_iff, checkNumbers_eq_ok_iff, checkInstants_eq_ok_iff]
  constructor
  · rintro ⟨priceMin, priceMax, surfaceMin, surfaceMax, bedrooms, bathrooms, prices, surfaces, dates⟩
    refine ⟨?_, ?_, ?_⟩
    · simpa using ⟨priceMin, priceMax, surfaceMin, surfaceMax⟩
    · simpa using ⟨bedrooms, bathrooms⟩
    · rintro (reversed | reversed | reversed)
      · exact prices reversed
      · exact surfaces reversed
      · exact dates reversed
  · rintro ⟨amounts, counts, ordered⟩
    exact ⟨amounts _ (by simp), amounts _ (by simp), amounts _ (by simp), amounts _ (by simp),
      counts _ (by simp), counts _ (by simp), fun reversed => ordered (.inl reversed),
      fun reversed => ordered (.inr (.inl reversed)),
      fun reversed => ordered (.inr (.inr reversed))⟩

end Limits

/-! ### Properties that meet sound criteria -/

/-- A property with what the criteria ask for, and of every range the lower bound or else the upper
one. -/
def PropertyCriteria.fitting (criteria : PropertyCriteria) : Property :=
  { Property.blank with
    organizationId := criteria.organizationId
    assignedUserId := criteria.assignedUserId
    teamId := criteria.teamId
    status := criteria.status
    kind := criteria.kind
    city := criteria.city
    country := criteria.country
    price := criteria.priceMin.or criteria.priceMax
    surface := criteria.surfaceMin.or criteria.surfaceMax
    bedrooms := criteria.bedrooms
    bathrooms := criteria.bathrooms
    active := criteria.active.getD true
    createdAt := criteria.createdAfter.or criteria.createdBefore }

namespace Search

open Limits

section Fitting

variable {α : Type} {make : α → Value}

theorem equals_ofOption (same : ∀ a, (make a).equals (make a) = true) {asked : Option α} :
    ∀ a ∈ asked, (Value.ofOption make asked).equals (make a) = true := by
  rintro a rfl
  exact same a

/-- The lower bound of a range lies in it, and if there is none, then the upper bound does. -/
theorem meets_or_of_ordered {least most : Option α}
    (self : ∀ a, a ∈ least ∨ a ∈ most → (make a).order? (make a) = some .eq)
    (ordered : ∀ low ∈ least, ∀ high ∈ most, StaysWithin (make low) (make high)) :
    (∀ bound ∈ least, Reaches (Value.ofOption make (least.or most)) (make bound)) ∧
      ∀ bound ∈ most, StaysWithin (Value.ofOption make (least.or most)) (make bound) := by
  cases least with
  | none =>
    refine ⟨by simp, ?_⟩
    rintro high rfl
    exact ⟨.eq, self high (.inr rfl), by decide⟩
  | some low =>
    refine ⟨?_, ordered low rfl⟩
    rintro bound ⟨⟩
    exact ⟨.eq, self low (.inl rfl), by decide⟩

end Fitting

/-- In a range in order, the lower bound, or else the upper one, meets both. -/
theorem meets_number_range (least most : Option Binary64)
    (least_number : ∀ low ∈ least, low.isNaN = false)
    (most_number : ∀ high ∈ most, high.isNaN = false)
    (ordered : ¬ ∃ low ∈ least, ∃ high ∈ most, low.compare? high = some .gt) :
    (∀ bound ∈ least, Reaches (.ofOption .number (least.or most)) (.number bound)) ∧
      ∀ bound ∈ most, StaysWithin (.ofOption .number (least.or most)) (.number bound) := by
  refine meets_or_of_ordered ?_ ?_
  · intro amount set
    have number : amount.isNaN = false := set.elim (least_number amount) (most_number amount)
    exact Binary64.compare?_eq_some_iff.2 ⟨number, number, by simp⟩
  · intro low setLow high setHigh
    have compared : low.compare? high = some (compare low.rank high.rank) :=
      Binary64.compare?_eq_some_iff.2 ⟨least_number low setLow, most_number high setHigh, rfl⟩
    refine ⟨compare low.rank high.rank, compared, fun above => ordered ?_⟩
    exact ⟨low, setLow, high, setHigh, above ▸ compared⟩

theorem meets_instant_range (first last : Option Instant)
    (ordered : ¬ ∃ s ∈ first, ∃ t ∈ last, s.order t = .gt) :
    (∀ bound ∈ first, Reaches (.ofOption .instant (first.or last)) (.instant bound)) ∧
      ∀ bound ∈ last, StaysWithin (.ofOption .instant (first.or last)) (.instant bound) := by
  refine meets_or_of_ordered ?_ ?_
  · intro t _
    exact congrArg some t.order_self
  · intro s setFirst t setLast
    refine ⟨s.order t, rfl, fun later => ordered ?_⟩
    exact ⟨s, setFirst, t, setLast, later⟩

/-- What is made to fit sound criteria meets them. -/
theorem fitting_meets {criteria : PropertyCriteria} (sound : IsSound criteria)
    (termMatch : TermMatch) (typed : String) :
    PropertyPolicy termMatch criteria ⟨[], [], [], typed⟩ criteria.fitting.row := by
  obtain ⟨amounts, -, ordered⟩ := sound
  have number {bound : Option Binary64} (belongs : bound ∈ [criteria.priceMin, criteria.priceMax,
      criteria.surfaceMin, criteria.surfaceMax]) : ∀ amount ∈ bound, amount.isNaN = false :=
    fun amount set => Binary64.isNaN_eq_false_of_isFinite (amounts bound belongs amount set).1
  -- Each range is met by one value, as the checks have found its bounds in order.
  have prices := meets_number_range criteria.priceMin criteria.priceMax (number (by simp))
    (number (by simp)) fun reversed => ordered (.inl reversed)
  have surfaces := meets_number_range criteria.surfaceMin criteria.surfaceMax (number (by simp))
    (number (by simp)) fun reversed => ordered (.inr (.inl reversed))
  have dates := meets_instant_range criteria.createdAfter criteria.createdBefore
    fun reversed => ordered (.inr (.inr reversed))
  have integer : ∀ n : Int64, (Value.integer n).equals (.integer n) = true := fun n => by
    simp [Value.equals]
  have text : ∀ s : String, (Value.text s).equals (.text s) = true := fun s => by
    simp [Value.equals]
  exact ⟨equals_ofOption integer, equals_ofOption integer, equals_ofOption integer,
    equals_ofOption text, equals_ofOption text, equals_ofOption text, equals_ofOption text,
    equals_ofOption integer, equals_ofOption integer, prices.1, prices.2, surfaces.1, surfaces.2,
    by simp [Property.row, PropertyCriteria.fitting, Value.equals], dates.1, dates.2,
    queryPolicy_of_no_entries typed⟩

/-! ### Reversed ranges -/

/-- What reaches a number and stays within another lies between them. -/
theorem not_reversed_of_number {held : Value} {low high : Binary64}
    (reaches : Reaches held (.number low)) (stays : StaysWithin held (.number high)) :
    low.compare? high ≠ some .gt := by
  obtain ⟨above, comparedLow, notBelow⟩ := reaches
  obtain ⟨below, comparedHigh, notAbove⟩ := stays
  obtain ⟨x, isX, comparedLow⟩ := Value.order?_number_iff.1 comparedLow
  obtain ⟨x', isX', comparedHigh⟩ := Value.order?_number_iff.1 comparedHigh
  obtain rfl : x = x' := Option.some.inj (isX.symm.trans isX')
  obtain ⟨-, -, rfl⟩ := Binary64.compare?_eq_some_iff.1 comparedLow
  obtain ⟨-, -, rfl⟩ := Binary64.compare?_eq_some_iff.1 comparedHigh
  intro reversed
  obtain ⟨-, -, reversed⟩ := Binary64.compare?_eq_some_iff.1 reversed
  rw [ne_eq, Int.compare_eq_lt] at notBelow
  rw [ne_eq, Int.compare_eq_gt] at notAbove
  rw [Int.compare_eq_gt] at reversed
  omega

/-- What reaches an instant and stays within another lies between them. -/
theorem not_reversed_of_instant {held : Value} {first last : Instant}
    (reaches : Reaches held (.instant first)) (stays : StaysWithin held (.instant last)) :
    first.order last ≠ .gt := by
  obtain ⟨after, comparedFirst, notBefore⟩ := reaches
  obtain ⟨before, comparedLast, notAfter⟩ := stays
  obtain ⟨t, rfl, rfl⟩ := Value.order?_instant_iff.1 comparedFirst
  obtain ⟨t', same, rfl⟩ := Value.order?_instant_iff.1 comparedLast
  obtain rfl := Value.instant.inj same
  rw [Instant.order_ne_lt_iff] at notBefore
  rw [Instant.order_ne_gt_iff] at notAfter ⊢
  omega

/-- What meets the criteria lies between their bounds, so none of their ranges is reversed. -/
theorem not_isReversed_of_policy {termMatch : TermMatch} {criteria : PropertyCriteria}
    {query : Query} {row : Row} (policy : PropertyPolicy termMatch criteria query row) :
    ¬ criteria.IsReversed := by
  rintro (⟨low, setLow, high, setHigh, reversed⟩ | ⟨low, setLow, high, setHigh, reversed⟩ |
    ⟨first, setFirst, last, setLast, reversed⟩)
  · exact not_reversed_of_number (policy.priceMin low setLow) (policy.priceMax high setHigh)
      reversed
  · exact not_reversed_of_number (policy.surfaceMin low setLow) (policy.surfaceMax high setHigh)
      reversed
  · exact not_reversed_of_instant (policy.createdAfter first setFirst)
      (policy.createdBefore last setLast) reversed

/-! ### The agreement -/

/-- Of criteria that pass the checks, the search without a query finds some property, whatever the
settings; so a search that can find nothing is refused. Criteria of which a range is reversed accept
no row at all, whatever is searched for besides. -/
theorem checks_fit_searches (criteria : PropertyCriteria) :
    (checkCriteria criteria = .ok () → ∀ policy termMatch, ∃ property : Property,
      (propertyCondition termMatch criteria (Query.parse policy "")).accepts property.row = true) ∧
    (criteria.IsReversed → ∀ termMatch query row,
      (propertyCondition termMatch criteria query).accepts row = false) := by
  refine ⟨fun checked policy termMatch => ⟨criteria.fitting, ?_⟩,
    fun reversed termMatch query row => ?_⟩
  · have sound := (checkCriteria_eq_ok_iff criteria).1 checked
    have nothing : Query.parse policy "" = ⟨[], [], [], ""⟩ := rfl
    rw [accepts_propertyCondition_iff, nothing]
    exact fitting_meets sound termMatch ""
  · rw [Bool.eq_false_iff, ne_eq, accepts_propertyCondition_iff]
    exact fun policy => not_isReversed_of_policy policy reversed

/-- A price range, an upper bound alone and a single day; and prices from 400000 down to 200000. -/
theorem checks_fit_searches_prices :
    let noon : Instant := ⟨1704110400, 0⟩
    let lofts : PropertyCriteria :=
      { PropertyCriteria.blank with
        city := some "Paris", priceMin := some (.ofInt 200000), priceMax := some (.ofInt 400000),
        surfaceMax := some (.ofInt 80), bedrooms := some 2, active := some false,
        createdAfter := some noon, createdBefore := some noon }
    let nothing : PropertyCriteria :=
      { lofts with priceMin := lofts.priceMax, priceMax := lofts.priceMin }
    checkCriteria lofts = .ok () ∧
      (∃ property : Property, (propertyCondition .all lofts
        (Query.parse ⟨["t2"], ⟨.empty⟩⟩ "")).accepts property.row = true) ∧
      nothing.IsReversed ∧
      (propertyCondition .any nothing (Query.parse ⟨[], ⟨.empty⟩⟩ "loft")).accepts
        lofts.fitting.row = false := by
  intro noon lofts nothing
  have checked : checkCriteria lofts = .ok () := by decide +kernel
  have above : (Binary64.ofInt 400000).compare? (.ofInt 200000) = some .gt := by decide +kernel
  have reversed : nothing.IsReversed := .inl ⟨_, rfl, _, rfl, above⟩
  exact ⟨checked, (checks_fit_searches lofts).1 checked _ .all, reversed,
    (checks_fit_searches nothing).2 reversed .any _ _⟩

end Search

end EstateSearch
