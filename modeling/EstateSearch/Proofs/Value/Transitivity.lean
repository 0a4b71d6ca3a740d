import EstateSearch.Proofs.Binary64.Integers
import EstateSearch.Proofs.Value.Order

/-!
# Order and equality across integers and numbers

Texts, instants and numbers are in a linear order each, and so are the integers. An integer and a
number are compared as numbers, which the integer may have to be rounded for. Rounding keeps the
order of integers, but it may make one number of two integers, and this number is then equal to both
of them while they differ from each other.

So order and equality are transitive but for the integers that round together
(`transitive_iff_not_roundTogether`). One of two such integers is greater than `2 ^ 53` in size, and
the least two break both laws (`rounding_breaks_transitivity`).
-/

set_option autoImplicit false

namespace EstateSearch.Value

/-! ### Values among the numbers -/

/-- The rank of a value among the numbers, for which an integer is rounded. -/
def rank? (value : Value) : Option Int :=
  value.asNumber?.bind fun x => if x.isNaN then none else some x.rank

theorem rank?_integer (i : Int64) :
    (integer i).rank? = some (Binary64.ofInt i.toInt).rank := by
  simp [rank?, asNumber?, Binary64.isNaN_ofInt]

theorem asNumber?_of_rank? {value : Value} {r : Int} (h : value.rank? = some r) :
    value.asNumber?.isSome = true := by
  cases found : value.asNumber? with
  | none => simp [rank?, found] at h
  | some x => rfl

/-- Numbers are compared by their places. -/
theorem orderNumbers?_eq_some_iff {a b : Value} {order : Ordering} :
    a.orderNumbers? b = some order ↔
      ∃ r s, a.rank? = some r ∧ b.rank? = some s ∧ compare r s = order := by
  rw [orderNumbers?, rank?, rank?]
  cases a.asNumber? with
  | none => simp
  | some x =>
    cases b.asNumber? with
    | none => simp
    | some y =>
      simp only [Binary64.compare?_eq_some_iff, Option.bind_some]
      cases x.isNaN <;> cases y.isNaN <;> simp

/-! ### Values in order -/

/-- The first value comes before the second one or level with it. -/
def AtMost (a b : Value) : Prop := ∃ order, a.order? b = some order ∧ order.isLE = true

theorem atMost_text_iff {s : String} {b : Value} :
    AtMost (text s) b ↔ ∃ t, b = text t ∧ (orderText s.toList t.toList).isLE = true := by
  cases b <;> simp [AtMost, order?, orderNumbers?, asNumber?]

theorem atMost_instant_iff {s : Instant} {b : Value} :
    AtMost (instant s) b ↔ ∃ t, b = instant t ∧ (s.order t).isLE = true := by
  cases b <;> simp [AtMost, order?, orderNumbers?, asNumber?]

theorem atMost_integers_iff {i j : Int64} :
    AtMost (integer i) (integer j) ↔ i.toInt ≤ j.toInt := by
  simp [AtMost, order?, Int.isLE_compare]

/-- Two values each of which comes before the other or level with it stand level. -/
theorem AtMost.antisymm {a b : Value} (h : AtMost a b) (h' : AtMost b a) :
    a.order? b = some .eq := by
  obtain ⟨order, compared, le⟩ := h
  obtain ⟨order', compared', le'⟩ := h'
  rw [order?_swap a b, compared, Option.map_some, Option.some.injEq] at compared'
  subst compared'
  cases order with
  | lt => cases le'
  | eq => exact compared
  | gt => cases le

theorem atMost_of_level {a b : Value} (h : a.order? b = some .eq) : AtMost a b ∧ AtMost b a := by
  refine ⟨⟨.eq, h, rfl⟩, .eq, ?_, rfl⟩
  rw [order?_swap a b, h]
  rfl

/-! ### Integers that round together -/

/-- Two different integers of which rounding makes one number. -/
def RoundTogether (a b : Value) : Prop :=
  ∃ i j : Int64, a = integer i ∧ b = integer j ∧ i ≠ j ∧
    (Binary64.ofInt i.toInt).sameNumber (Binary64.ofInt j.toInt) = true

theorem RoundTogether.symm {a b : Value} (h : RoundTogether a b) : RoundTogether b a := by
  obtain ⟨i, j, rfl, rfl, different, same⟩ := h
  rw [Binary64.sameNumber_ofInt_iff] at same
  exact ⟨j, i, rfl, rfl, different.symm, Binary64.sameNumber_ofInt_iff.2 same.symm⟩

/-- The number that two integers round to is equal to both. -/
theorem RoundTogether.exists_between {a c : Value} (h : RoundTogether a c) :
    ∃ b, a.order? b = some .eq ∧ b.order? c = some .eq := by
  obtain ⟨i, j, rfl, rfl, -, same⟩ := h
  rw [Binary64.sameNumber_ofInt_iff] at same
  refine ⟨number (Binary64.ofInt i.toInt), ?_, ?_⟩
  · exact Binary64.compare?_eq_some_iff.2
      ⟨Binary64.isNaN_ofInt _, Binary64.isNaN_ofInt _, Int.compare_eq_eq.2 rfl⟩
  · exact Binary64.compare?_eq_some_iff.2
      ⟨Binary64.isNaN_ofInt _, Binary64.isNaN_ofInt _, Int.compare_eq_eq.2 same⟩

/-- Integers that round to one number are still different. -/
theorem RoundTogether.equals_eq_false {a c : Value} (h : RoundTogether a c) :
    a.equals c = false := by
  obtain ⟨i, j, rfl, rfl, different, -⟩ := h
  simpa [equals] using different

/-- One of two integers that round together is greater than `2 ^ 53` in size. -/
theorem RoundTogether.exists_large {a c : Value} (h : RoundTogether a c) :
    ∃ i, (a = integer i ∨ c = integer i) ∧ 2 ^ 53 < i.toInt.natAbs := by
  obtain ⟨i, j, rfl, rfl, different, same⟩ := h
  rw [Binary64.sameNumber_ofInt_iff] at same
  by_contra small
  have first : i.toInt.natAbs ≤ 2 ^ 53 := by
    by_contra large
    exact small ⟨i, .inl rfl, by omega⟩
  have second : j.toInt.natAbs ≤ 2 ^ 53 := by
    by_contra large
    exact small ⟨j, .inr rfl, by omega⟩
  rcases lt_trichotomy i.toInt j.toInt with lower | equal | higher
  · exact (Binary64.rank_ofInt_lt lower first second).ne same
  · exact different (Int64.toInt_inj.1 equal)
  · exact (Binary64.rank_ofInt_lt higher second first).ne same.symm

/-! ### The laws -/

/-- Values in order are in order among the numbers, if the first one is one of them. -/
theorem AtMost.ranks {a b : Value} (h : AtMost a b) (numeric : a.asNumber?.isSome = true) :
    ∃ r s, a.rank? = some r ∧ b.rank? = some s ∧ r ≤ s := by
  by_cases integers : ∃ i j, a = integer i ∧ b = integer j
  · obtain ⟨i, j, rfl, rfl⟩ := integers
    exact ⟨_, _, rank?_integer i, rank?_integer j,
      Binary64.rank_ofInt_mono (atMost_integers_iff.1 h)⟩
  · obtain ⟨order, compared, le⟩ := h
    rw [order?_eq_orderNumbers? numeric integers, orderNumbers?_eq_some_iff] at compared
    obtain ⟨r, s, first, second, rfl⟩ := compared
    exact ⟨r, s, first, second, Int.isLE_compare.1 le⟩

/-- Values in order among the numbers are in order, unless they are integers that round together. -/
theorem atMost_of_ranks {a b : Value} {r s : Int} (first : a.rank? = some r)
    (second : b.rank? = some s) (le : r ≤ s) :
    AtMost a b ∨ RoundTogether a b ∧ a.order? b = some .gt := by
  by_cases integers : ∃ i j, a = integer i ∧ b = integer j
  · obtain ⟨i, j, rfl, rfl⟩ := integers
    rcases le_or_gt i.toInt j.toInt with inOrder | reversed
    · exact .inl (atMost_integers_iff.2 inOrder)
    · rw [rank?_integer, Option.some.injEq] at first second
      have same : (Binary64.ofInt i.toInt).rank = (Binary64.ofInt j.toInt).rank :=
        Int.le_antisymm (by omega) (Binary64.rank_ofInt_mono reversed.le)
      refine .inr ⟨⟨i, j, rfl, rfl, ?_, Binary64.sameNumber_ofInt_iff.2 same⟩, ?_⟩
      · rintro rfl
        exact absurd reversed (Int.lt_irrefl _)
      · rw [order?, Int.compare_eq_gt.2 reversed]
  · refine .inl ⟨compare r s, ?_, Int.isLE_compare.2 le⟩
    rw [order?_eq_orderNumbers? (asNumber?_of_rank? first) integers, orderNumbers?_eq_some_iff]
    exact ⟨r, s, first, second, rfl⟩

/-- The order reaches from one value to the next one and on to a third, unless rounding hides that
the third is less than the first one. -/
theorem AtMost.trans {a b c : Value} (first : AtMost a b) (second : AtMost b c) :
    AtMost a c ∨ RoundTogether a c ∧ a.order? c = some .gt := by
  -- If the first value is a number, so are the others, and places in the order can be chained.
  have numbers (numeric : a.asNumber?.isSome = true) :
      AtMost a c ∨ RoundTogether a c ∧ a.order? c = some .gt := by
    obtain ⟨r, s, ofA, ofB, le⟩ := first.ranks numeric
    obtain ⟨s', t, ofB', ofC, le'⟩ := second.ranks (asNumber?_of_rank? ofB)
    obtain rfl : s = s' := Option.some.inj (ofB.symm.trans ofB')
    exact atMost_of_ranks ofA ofC (le.trans le')
  cases a with
  | text s =>
    obtain ⟨t, rfl, le⟩ := atMost_text_iff.1 first
    obtain ⟨u, rfl, le'⟩ := atMost_text_iff.1 second
    exact .inl (atMost_text_iff.2 ⟨u, rfl, Std.TransCmp.isLE_trans le le'⟩)
  | instant s =>
    obtain ⟨t, rfl, le⟩ := atMost_instant_iff.1 first
    obtain ⟨u, rfl, le'⟩ := atMost_instant_iff.1 second
    exact .inl (atMost_instant_iff.2 ⟨u, rfl, Std.TransCmp.isLE_trans le le'⟩)
  | integer i => exact numbers rfl
  | number x => exact numbers rfl
  | _ =>
    obtain ⟨order, compared, -⟩ := first
    simp [order?, orderNumbers?, asNumber?] at compared

/-- Equality can be chained, but for integers that a number between them ties together. -/
theorem equals_trans {a b c : Value} (first : a.equals b = true) (second : b.equals c = true) :
    a.equals c = true ∨ RoundTogether a c := by
  rcases equals_iff.1 first with level | ⟨x, rfl, rfl⟩
  · rcases equals_iff.1 second with level' | ⟨x, rfl, rfl⟩
    · obtain ⟨upwards, downwards⟩ := atMost_of_level level
      obtain ⟨upwards', downwards'⟩ := atMost_of_level level'
      rcases upwards.trans upwards' with le | ⟨together, -⟩
      · rcases downwards'.trans downwards with ge | ⟨together, -⟩
        · exact .inl (equals_iff.2 (.inl (le.antisymm ge)))
        · exact .inr together.symm
      · exact .inr together
    · cases a <;> simp [order?, orderNumbers?, asNumber?] at level
  · exact .inl second

/-- Order and equality reach from one value to another one by way of any third, unless the two are
integers that round together. These are not equal, and if they stand in reverse order they are
not in order, though both are level with the number that they round to. -/
theorem transitive_iff_not_roundTogether (a c : Value) :
    ((∀ b, AtMost a b → AtMost b c → AtMost a c) ↔
        ¬ (RoundTogether a c ∧ a.order? c = some .gt)) ∧
      ((∀ b, a.equals b = true → b.equals c = true → a.equals c = true) ↔ ¬ RoundTogether a c) ∧
      (RoundTogether a c →
        ∃ i, (a = integer i ∨ c = integer i) ∧ 2 ^ 53 < i.toInt.natAbs) := by
  refine ⟨⟨?_, ?_⟩, ⟨?_, ?_⟩, RoundTogether.exists_large⟩
  · rintro law ⟨together, reversed⟩
    obtain ⟨b, level, level'⟩ := together.exists_between
    obtain ⟨order, compared, le⟩ := law b (atMost_of_level level).1 (atMost_of_level level').1
    obtain rfl : .gt = order := Option.some.inj (reversed.symm.trans compared)
    cases le
  · intro apart b first second
    exact (first.trans second).resolve_right apart
  · intro law together
    obtain ⟨b, level, level'⟩ := together.exists_between
    have equal := law b (equals_iff.2 (.inl level)) (equals_iff.2 (.inl level'))
    rw [together.equals_eq_false] at equal
    cases equal
  · intro apart b first second
    exact (equals_trans first second).resolve_right apart

/-- The least two integers that round together. -/
theorem roundTogether_two_pow_53 :
    RoundTogether (integer 9007199254740993) (integer 9007199254740992) :=
  ⟨_, _, rfl, rfl, by decide, by decide +kernel⟩

/-- The order reaches from 3 as an integer to 3 as a number, but equality does not reach from one of
those two integers to the other. -/
theorem transitive_three_not_two_pow_53 :
    (∀ b, AtMost (integer 3) b → AtMost b (number (Binary64.ofInt 3)) →
        AtMost (integer 3) (number (Binary64.ofInt 3))) ∧
      ¬ ∀ b, (integer 9007199254740993).equals b = true →
        b.equals (integer 9007199254740992) = true →
          (integer 9007199254740993).equals (integer 9007199254740992) = true := by
  refine ⟨(transitive_iff_not_roundTogether _ _).1.2 ?_, fun law => ?_⟩
  · rintro ⟨⟨i, j, -, number, -⟩, -⟩
    cases number
  · exact (transitive_iff_not_roundTogether _ _).2.1.1 law roundTogether_two_pow_53

/-- Two integers in reverse order, and the number `2 ^ 53` that is level with both of them. -/
theorem rounding_breaks_transitivity :
    let a := integer 9007199254740993
    let b := number (Binary64.ofInt 9007199254740992)
    let c := integer 9007199254740992
    (AtMost a b ∧ AtMost b c ∧ ¬ AtMost a c) ∧
      a.equals b = true ∧ b.equals c = true ∧ a.equals c = false := by
  intro a b c
  have level : a.order? b = some .eq := by decide +kernel
  have level' : b.order? c = some .eq := by decide +kernel
  have reversed : ¬ AtMost a c := by
    rw [atMost_integers_iff]
    decide
  exact ⟨⟨(atMost_of_level level).1, (atMost_of_level level').1, reversed⟩,
    equals_iff.2 (.inl level), equals_iff.2 (.inl level'), by decide⟩

end EstateSearch.Value
