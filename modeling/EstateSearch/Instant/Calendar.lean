/-!
# The Gregorian calendar

Dates of the proleptic Gregorian calendar and their day numbers; day 0 is the first of January
1970. Years are counted astronomically, so year 0 precedes year 1.
-/

set_option autoImplicit false

namespace EstateSearch.Instant

structure Date where
  year : Int
  month : Nat
  day : Nat
  deriving DecidableEq, Repr

def isLeapYear (year : Int) : Bool :=
  year % 4 == 0 && (year % 100 != 0 || year % 400 == 0)

/-- The number of days of a month, or none if there is no such month. -/
def daysInMonth (year : Int) (month : Nat) : Nat :=
  match month with
  | 1 | 3 | 5 | 7 | 8 | 10 | 12 => 31
  | 4 | 6 | 9 | 11 => 30
  | 2 => if isLeapYear year then 29 else 28
  | _ => 0

namespace Date

def isValid (d : Date) : Bool :=
  1 ≤ d.day && d.day ≤ daysInMonth d.year d.month

/-- The number of days from the first of January 1970 to the date. Years are counted from March on,
so that a leap day ends its year. -/
def dayNumber (d : Date) : Int :=
  let year := if d.month ≤ 2 then d.year - 1 else d.year
  let century4 := year / 400
  let yearOfCentury4 := year % 400
  let month : Int := ((d.month + 9) % 12 : Nat)
  let dayOfYear := (153 * month + 2) / 5 + d.day - 1
  let day := yearOfCentury4 * 365 + yearOfCentury4 / 4 - yearOfCentury4 / 100 + dayOfYear
  century4 * 146097 + day - 719468

def ofDayNumber (n : Int) : Date :=
  let shifted := n + 719468
  let century4 := shifted / 146097
  let day := shifted % 146097
  let yearOfCentury4 := (day - day / 1460 + day / 36524 - day / 146096) / 365
  let dayOfYear := day - (365 * yearOfCentury4 + yearOfCentury4 / 4 - yearOfCentury4 / 100)
  let march := (5 * dayOfYear + 2) / 153
  let month := if march < 10 then march + 3 else march - 9
  let year := yearOfCentury4 + century4 * 400 + if month ≤ 2 then 1 else 0
  ⟨year, month.toNat, (dayOfYear - (153 * march + 2) / 5 + 1).toNat⟩

example : dayNumber ⟨1970, 1, 1⟩ = 0 := by decide
example : ofDayNumber 19782 = ⟨2024, 2, 29⟩ := by decide
example : dayNumber ⟨2024, 2, 29⟩ = 19782 := by decide

end Date

end EstateSearch.Instant
