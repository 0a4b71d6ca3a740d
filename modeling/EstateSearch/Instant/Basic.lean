import EstateSearch.Instant.Calendar

/-!
# Instants

An instant is a point in time to the nanosecond, counted in universal time. A leap second is the
second before it with a nanosecond part of a whole second or more, so that it follows that second
and precedes the next in the order of instants.

Source: `search/src/criteria` and `search/src/record`, whose instants are those of `chrono`.
-/

set_option autoImplicit false

namespace EstateSearch

/-- A point in time: whole seconds since the start of 1970 in universal time, and nanoseconds. -/
structure Instant where
  seconds : Int
  nanos : Nat
  deriving DecidableEq, Repr

namespace Instant

def order (a b : Instant) : Ordering :=
  (compare a.seconds b.seconds).then (compare a.nanos b.nanos)

def yearRange : Int × Int := (-262143, 262142)

def yearInRange (year : Int) : Bool :=
  yearRange.1 ≤ year && year ≤ yearRange.2

/-- The date in universal time. -/
def date (t : Instant) : Date := Date.ofDayNumber (t.seconds / 86400)

/-- The second of the day in universal time. -/
def secondOfDay (t : Instant) : Nat := (t.seconds % 86400).toNat

end Instant

end EstateSearch
