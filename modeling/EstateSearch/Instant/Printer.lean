import EstateSearch.Decimal.Digits
import EstateSearch.Instant.Basic

/-!
# Written instants

Instants are written in universal time as `2024-01-01T00:00:00` with a fraction of 3, 6 or 9 digits
where needed, followed by a mark for the offset.

The forms are those that `chrono` writes.
-/

set_option autoImplicit false

namespace EstateSearch.Instant

open Decimal

def padded (width n : Nat) : List Char :=
  let text := spell (digits n)
  List.replicate (width - text.length) '0' ++ text

/-- Years from 0 to 9999 have four digits; all others have a sign and at least four digits. -/
def yearText (year : Int) : List Char :=
  if 0 ≤ year && year ≤ 9999 then padded 4 year.toNat
  else (if year < 0 then '-' else '+') :: padded 4 year.natAbs

/-- The fraction of a second with the fewest of 0, 3, 6 and 9 digits that is exact. -/
def fractionText (nanos : Nat) : List Char :=
  if nanos = 0 then []
  else if nanos % 1000000 = 0 then '.' :: padded 3 (nanos / 1000000)
  else if nanos % 1000 = 0 then '.' :: padded 6 (nanos / 1000)
  else '.' :: padded 9 nanos

/-- The instant followed by `mark`, which stands for the offset zero. -/
def textWith (mark : List Char) (t : Instant) : List Char :=
  let d := t.date
  let s := t.secondOfDay
  yearText d.year ++ ['-'] ++ padded 2 d.month ++ ['-'] ++ padded 2 d.day ++ ['T'] ++
    padded 2 (s / 3600) ++ [':'] ++ padded 2 (s / 60 % 60) ++ [':'] ++
    padded 2 (s % 60 + t.nanos / 1000000000) ++ fractionText (t.nanos % 1000000000) ++ mark

/-- The instant with a numeric offset, as in messages and listings. -/
def text (t : Instant) : String :=
  String.ofList (t.textWith ['+', '0', '0', ':', '0', '0'])

/-- The instant with the letter of universal time, as in records. -/
def recordText (t : Instant) : String :=
  String.ofList (t.textWith ['Z'])

end EstateSearch.Instant
