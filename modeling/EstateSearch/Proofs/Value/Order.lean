import EstateSearch.Value

/-!
# The order of values

What two values must be to be compared, and what the outcome says. Numbers are compared by their
ranks (`Binary64.compare?_eq_some_iff`), also where the one is an integer that has been rounded
(`Value.order?_number_iff`). Instants compare with instants only (`Value.order?_instant_iff`),
second by second and then by the parts of a second, and texts with texts only, character by
character (`Value.orderText_eq`).

A comparison the other way round has the opposite outcome (`Value.order?_swap`), and to be equal is
to be level with each other, but for truth values (`Value.equals_iff`). So it does not matter which
of two values comes first (`Value.equals_comm`).
-/

set_option autoImplicit false

namespace EstateSearch

namespace Binary64

theorem isNaN_eq_false_of_isFinite {x : Binary64} (finite : x.isFinite = true) :
    x.isNaN = false := by
  simp only [isFinite, isNaN, decide_eq_true_eq, decide_eq_false_iff_not] at *
  omega

/-- Two numbers are compared if neither is the value that is no number, and then by rank. -/
theorem compare?_eq_some_iff {x y : Binary64} {order : Ordering} :
    x.compare? y = some order ↔
      x.isNaN = false ∧ y.isNaN = false ∧ compare x.rank y.rank = order := by
  rw [compare?]
  cases x.isNaN <;> cases y.isNaN <;> simp

theorem compare?_swap (x y : Binary64) : y.compare? x = (x.compare? y).map Ordering.swap := by
  rw [compare?, compare?]
  cases x.isNaN with
  | true => cases y.isNaN <;> rfl
  | false =>
    cases y.isNaN with
    | true => rfl
    | false => exact congrArg some Std.OrientedCmp.eq_swap

end Binary64

namespace Instant

theorem order_ne_gt_iff {a b : Instant} :
    a.order b ≠ .gt ↔ a.seconds < b.seconds ∨ a.seconds = b.seconds ∧ a.nanos ≤ b.nanos := by
  rw [order, ne_eq, Ordering.then_eq_gt, Int.compare_eq_gt, Int.compare_eq_eq, Nat.compare_eq_gt]
  omega

theorem order_ne_lt_iff {a b : Instant} :
    a.order b ≠ .lt ↔ b.seconds < a.seconds ∨ a.seconds = b.seconds ∧ b.nanos ≤ a.nanos := by
  rw [order, ne_eq, Ordering.then_eq_lt, Int.compare_eq_lt, Int.compare_eq_eq, Nat.compare_eq_lt]
  omega

theorem order_eq : order = compareLex (compareOn seconds) (compareOn nanos) := rfl

instance : Std.TransCmp order := order_eq ▸ inferInstance

theorem order_eq_eq_iff {s t : Instant} : s.order t = .eq ↔ s = t := by
  rw [order, Ordering.then_eq_eq, Int.compare_eq_eq, Nat.compare_eq_eq]
  constructor
  · rintro ⟨seconds, nanos⟩
    cases s
    cases t
    congr
  · rintro rfl
    exact ⟨rfl, rfl⟩

theorem order_self (t : Instant) : t.order t = .eq := order_eq_eq_iff.2 rfl

end Instant

namespace Value

theorem orderText_eq : orderText = List.compareLex (compareOn Char.toNat) := by
  funext first second
  induction first generalizing second with
  | nil => cases second <;> rfl
  | cons a first ih =>
    cases second with
    | nil => rfl
    | cons b second => rw [orderText, ih, List.compareLex_cons_cons, compareOn]

instance : Std.TransCmp orderText := orderText_eq ▸ inferInstance

theorem orderText_eq_eq_iff {first second : List Char} :
    orderText first second = .eq ↔ first = second := by
  induction first generalizing second with
  | nil => cases second <;> simp [orderText]
  | cons a first ih =>
    cases second with
    | nil => simp [orderText]
    | cons b second =>
      rw [orderText, Ordering.then_eq_eq, Nat.compare_eq_eq, ih, Char.toNat_inj, List.cons.injEq]

theorem order?_number_iff {held : Value} {y : Binary64} {order : Ordering} :
    held.order? (.number y) = some order ↔
      ∃ x, held.asNumber? = some x ∧ x.compare? y = some order := by
  cases held <;> simp [order?, orderNumbers?, asNumber?]

theorem order?_instant_iff {held : Value} {b : Instant} {order : Ordering} :
    held.order? (.instant b) = some order ↔ ∃ a, held = .instant a ∧ a.order b = order := by
  cases held <;> simp [order?, orderNumbers?, asNumber?]

/-- Numbers are compared as numbers, except that two integers are compared exactly. -/
theorem order?_eq_orderNumbers? {a b : Value} (numeric : a.asNumber?.isSome = true)
    (mixed : ¬ ∃ i j, a = integer i ∧ b = integer j) : a.order? b = a.orderNumbers? b := by
  cases a with
  | integer i =>
    cases b with
    | integer j => exact absurd ⟨i, j, rfl, rfl⟩ mixed
    | _ => rfl
  | number x => cases b <;> rfl
  | _ => cases numeric

theorem orderNumbers?_swap (a b : Value) :
    b.orderNumbers? a = (a.orderNumbers? b).map Ordering.swap := by
  rw [orderNumbers?, orderNumbers?]
  cases a.asNumber? with
  | none => cases b.asNumber? <;> rfl
  | some x =>
    cases b.asNumber? with
    | none => rfl
    | some y => exact Binary64.compare?_swap x y

/-- The order of two values is turned around with them, and so is their being incomparable. -/
theorem order?_swap (a b : Value) : b.order? a = (a.order? b).map Ordering.swap := by
  -- Values of one kind have an order of their own; all other pairs are compared as numbers, or not
  -- at all.
  have numbers := orderNumbers?_swap a b
  cases a with
  | text s =>
    cases b with
    | text t => exact congrArg some Std.OrientedCmp.eq_swap
    | _ => exact numbers
  | integer i =>
    cases b with
    | integer j => exact congrArg some Std.OrientedCmp.eq_swap
    | _ => exact numbers
  | instant s =>
    cases b with
    | instant t => exact congrArg some Std.OrientedCmp.eq_swap
    | _ => exact numbers
  | _ => cases b <;> exact numbers

/-- Values are equal if they are level with each other; truth values are equal, too, though they
have no order. -/
theorem equals_iff {a b : Value} :
    a.equals b = true ↔ a.order? b = some .eq ∨ ∃ x, a = boolean x ∧ boolean x = b := by
  cases a with
  | text s =>
    cases b <;>
      simp [equals, order?, orderNumbers?, asNumber?, orderText_eq_eq_iff, String.toList_inj]
  | instant s =>
    cases b <;> simp [equals, order?, orderNumbers?, asNumber?, Instant.order_eq_eq_iff]
  | integer i => cases b <;> simp [equals, order?, orderNumbers?, asNumber?, Int64.toInt_inj]
  | number x => cases b <;> simp [equals, order?, orderNumbers?, asNumber?]
  | boolean x => cases b <;> simp [equals, order?, orderNumbers?, asNumber?]
  | missing => cases b <;> simp [equals, order?, orderNumbers?, asNumber?]

theorem order?_eq_eq_comm {a b : Value} : a.order? b = some .eq ↔ b.order? a = some .eq := by
  rw [order?_swap a b, Option.map_eq_some_iff]
  constructor
  · exact fun level => ⟨.eq, level, rfl⟩
  · rintro ⟨order, compared, swapped⟩
    rw [compared, Ordering.swap_eq_eq.1 swapped]

/-- Equality does not look at the order of its sides. -/
theorem equals_comm (a b : Value) : a.equals b = b.equals a := by
  rw [Bool.eq_iff_iff, equals_iff, equals_iff]
  refine or_congr order?_eq_eq_comm (exists_congr fun x => ?_)
  rw [and_comm, eq_comm, @eq_comm _ a]

end Value

end EstateSearch
