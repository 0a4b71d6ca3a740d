import EstateSearch.Instant.Basic
import Mathlib.Tactic.IntervalCases

/-!
# Dates and day numbers

Every day number has a date of the calendar (`isValid_ofDayNumber`), and the date has the day number
back (`dayNumber_ofDayNumber`).

The calendar repeats after 400 years. The year of a day in this period comes out of a quotient by
365 of a number that grows with the day (`ordinal_le`), so it is enough to look at the first day of
each of the 400 years and the day before it (`ordinal_yearStart`). Years and months are counted from
March on, as in `Date.dayNumber`.
-/

set_option autoImplicit false

namespace EstateSearch.Instant

/-- A number that grows with the day: by 365 in every year, as if leap days did not count. -/
def ordinal (day : Int) : Int := day - day / 1460 + day / 36524 - day / 146096

def yearStart (year : Int) : Int := 365 * year + year / 4 - year / 100

/-! ### The year of a day -/

/-- The ordinal never falls from one day to a later one. -/
theorem ordinal_le {day later : Int} (h : day ≤ later) : ordinal day ≤ ordinal later := by
  have ordinary : day - day / 1460 ≤ later - later / 1460 := by omega
  have centuries : day / 36524 ≤ later / 36524 := by omega
  have periods (day : Int) : day / 146096 = day / 36524 / 4 := by omega
  have leap : day / 36524 - day / 36524 / 4 ≤ later / 36524 - later / 36524 / 4 := by omega
  rw [ordinal, ordinal, periods, periods]
  omega

theorem ordinal_yearStart : ∀ year : Nat, year < 400 →
    365 * (year : Int) ≤ ordinal (yearStart year) ∧
      (0 < year → ordinal (yearStart year - 1) < 365 * (year : Int)) := by
  decide +kernel

def yearOfDay (day : Int) : Int := ordinal day / 365

def dayOfYear (day : Int) : Int := day - yearStart (yearOfDay day)

section

variable {day : Int} (first : 0 ≤ day) (last : day < 146097)
include first last

/-- Corrected for leap days, the quotient by 365 stays inside of the period. -/
theorem yearOfDay_range : 0 ≤ yearOfDay day ∧ yearOfDay day < 400 := by
  rw [yearOfDay, ordinal]
  omega

theorem yearStart_le : yearStart (yearOfDay day) ≤ day := by
  obtain ⟨low, high⟩ := yearOfDay_range first last
  obtain ⟨year, same⟩ := Int.eq_ofNat_of_zero_le low
  -- A day before the year comes no later than the last day before it, whose quotient is smaller.
  refine Int.not_lt.1 fun before => ?_
  have positive : 0 < year := by
    rw [Nat.pos_iff_ne_zero]
    rintro rfl
    rw [same, yearStart] at before
    omega
  have below := (ordinal_yearStart year (by omega)).2 positive
  have monotone := ordinal_le (Int.le_sub_one_of_lt before)
  rw [same] at monotone
  rw [yearOfDay] at same
  omega

/-- Every day lies before the first day of the next year. -/
theorem lt_yearStart (notLast : yearOfDay day + 1 < 400) : day < yearStart (yearOfDay day + 1) := by
  obtain ⟨low, high⟩ := yearOfDay_range first last
  obtain ⟨year, same⟩ := Int.eq_ofNat_of_zero_le low
  refine Int.not_le.1 fun after => ?_
  have next : ((year + 1 : Nat) : Int) = yearOfDay day + 1 := by omega
  have above := (ordinal_yearStart (year + 1) (by omega)).1
  have monotone := ordinal_le after
  rw [next] at above
  rw [yearOfDay] at same above monotone
  omega

/-- A year has 365 days, and one more if the next February has a leap day. -/
theorem dayOfYear_range :
    0 ≤ dayOfYear day ∧ dayOfYear day ≤ 365 ∧
      (dayOfYear day = 365 → (yearOfDay day + 1) % 4 = 0 ∧
        ((yearOfDay day + 1) % 100 ≠ 0 ∨ (yearOfDay day + 1) % 400 = 0)) := by
  obtain ⟨low, high⟩ := yearOfDay_range first last
  have start := yearStart_le first last
  have stop := lt_yearStart first last
  rw [dayOfYear]
  generalize yearOfDay day = year at *
  have centuries : year / 100 ≤ (year + 1) / 100 := by omega
  rw [yearStart] at *
  by_cases fourth : (year + 1) % 4 = 0
  · have count : (year + 1) / 4 = year / 4 + 1 := by omega
    by_cases century : (year + 1) % 100 = 0
    · have count' : (year + 1) / 100 = year / 100 + 1 := by omega
      omega
    · omega
  · have count : (year + 1) / 4 = year / 4 := by omega
    omega

end

/-! ### The month of a day -/

/-- The month of a day of the year, from 0 for March on. -/
def monthOfDay (day : Int) : Int := (5 * day + 2) / 153

/-- The first day of a month, from 0 for March on. -/
def monthStart (month : Int) : Int := (153 * month + 2) / 5

/-- The number of a month in the usual order, which starts with January. -/
def usualMonth (month : Int) : Int := if month < 10 then month + 3 else month - 9

/-- Before February a month ends where the next one starts. -/
theorem daysInMonth_eq (year : Int) {month : Nat} (h : month < 11) :
    (daysInMonth year (usualMonth month).toNat : Int) =
      monthStart (month + 1) - monthStart month := by
  interval_cases month <;> rfl

section

variable {day : Int} (first : 0 ≤ day) (last : day ≤ 365)
include first last

/-- The linear formula for months gives one of twelve, whose first day is not past the day. -/
theorem monthOfDay_range :
    0 ≤ monthOfDay day ∧ monthOfDay day ≤ 11 ∧ monthStart (monthOfDay day) ≤ day := by
  rw [monthStart, monthOfDay]
  omega

/-- No month goes on after its last day, and February has a 29th day only in leap years. -/
theorem dayOfMonth_le {year : Int} (leap : day = 365 → isLeapYear year = true) :
    day - monthStart (monthOfDay day) + 1 ≤
      daysInMonth year (usualMonth (monthOfDay day)).toNat := by
  obtain ⟨low, high, -⟩ := monthOfDay_range first last
  obtain ⟨month, same⟩ := Int.eq_ofNat_of_zero_le low
  by_cases february : month = 11
  · have days : daysInMonth year (usualMonth 11).toNat = if isLeapYear year then 29 else 28 := rfl
    have start : monthStart 11 = 337 := rfl
    rw [same, february, Nat.cast_ofNat, days, start]
    split
    · omega
    · rename_i common
      have notLast : day ≠ 365 := fun last => common (leap last)
      omega
  · rw [same, daysInMonth_eq year (by omega)]
    rw [monthOfDay] at same
    simp only [monthStart]
    omega

end

/-! ### The date of a day number -/

namespace Date

/-- The date of a day number in terms of period, year and month, without intermediate quotients. -/
theorem ofDayNumber_eq (n : Int) :
    ofDayNumber n =
      let century4 := (n + 719468) / 146097
      let day := (n + 719468) % 146097
      let month := usualMonth (monthOfDay (dayOfYear day))
      ⟨yearOfDay day + century4 * 400 + if month ≤ 2 then 1 else 0, month.toNat,
        (dayOfYear day - monthStart (monthOfDay (dayOfYear day)) + 1).toNat⟩ := rfl

/-- The day number of a date by its year and month from March on. -/
theorem dayNumber_eq {d : Date} {year month : Int}
    (marchYear : d.year = year + if d.month ≤ 2 then 1 else 0)
    (marchMonth : (((d.month + 9) % 12 : Nat) : Int) = month) :
    d.dayNumber =
      year / 400 * 146097 + (yearStart (year % 400) + monthStart month + d.day - 1) - 719468 := by
  have sameYear : (if d.month ≤ 2 then d.year - 1 else d.year) = year := by
    split at marchYear <;> omega
  simp only [dayNumber, sameYear, marchMonth, yearStart, monthStart]
  omega

/-- The date of a day number is one of the calendar. -/
theorem isValid_ofDayNumber (n : Int) :
    (ofDayNumber n).isValid = true ∧ 1 ≤ (ofDayNumber n).month ∧ (ofDayNumber n).month ≤ 12 := by
  have first : 0 ≤ (n + 719468) % 146097 := by omega
  have last : (n + 719468) % 146097 < 146097 := by omega
  rw [ofDayNumber_eq]
  dsimp only
  generalize (n + 719468) % 146097 = day at *
  generalize (n + 719468) / 146097 = century4
  obtain ⟨start, stop, leap⟩ := dayOfYear_range first last
  generalize yearOfDay day = year at *
  generalize dayOfYear day = day at *
  obtain ⟨low, high, begun⟩ := monthOfDay_range start stop
  have leapYear : day = 365 → isLeapYear (year + century4 * 400 +
      if usualMonth (monthOfDay day) ≤ 2 then 1 else 0) = true := by
    intro last
    obtain ⟨fourth, century⟩ := leap last
    have february : usualMonth (monthOfDay 365) ≤ 2 := by decide
    rw [last, if_pos february, isLeapYear]
    simp only [Bool.and_eq_true, Bool.or_eq_true, beq_iff_eq, bne_iff_ne]
    omega
  have inMonth := dayOfMonth_le start stop leapYear
  have usual : 1 ≤ usualMonth (monthOfDay day) ∧ usualMonth (monthOfDay day) ≤ 12 := by
    rw [usualMonth]
    split <;> omega
  refine ⟨?_, by omega, by omega⟩
  simp only [isValid, Bool.and_eq_true, decide_eq_true_iff]
  omega

/-- The date of a day number has this day number. -/
theorem dayNumber_ofDayNumber (n : Int) : (ofDayNumber n).dayNumber = n := by
  have first : 0 ≤ (n + 719468) % 146097 := by omega
  have last : (n + 719468) % 146097 < 146097 := by omega
  have whole : (n + 719468) / 146097 * 146097 + (n + 719468) % 146097 = n + 719468 := by omega
  rw [ofDayNumber_eq]
  dsimp only
  -- From here on the quotients are opaque, and `omega` only meets linear facts about them.
  generalize (n + 719468) % 146097 = day at *
  generalize (n + 719468) / 146097 = century4 at *
  have years := yearOfDay_range first last
  have split : day = yearStart (yearOfDay day) + dayOfYear day := by
    rw [dayOfYear]
    omega
  obtain ⟨start, stop, -⟩ := dayOfYear_range first last
  generalize yearOfDay day = year at *
  generalize dayOfYear day = yearDay at *
  obtain ⟨low, high, begun⟩ := monthOfDay_range start stop
  generalize monthOfDay yearDay = month at *
  have usual : ((usualMonth month).toNat ≤ 2 ↔ usualMonth month ≤ 2) := by omega
  have marchMonth : ((((usualMonth month).toNat + 9) % 12 : Nat) : Int) = month := by
    rw [usualMonth]
    split <;> omega
  rw [dayNumber_eq (by simp only [usual]; rfl) marchMonth]
  rw [split] at whole
  have period : (year + century4 * 400) / 400 = century4 := by omega
  have inPeriod : (year + century4 * 400) % 400 = year := by omega
  rw [period, inPeriod]
  dsimp only
  omega

end Date

end EstateSearch.Instant
