import EstateSearch.Decimal.Digits
import EstateSearch.Instant.Basic
import EstateSearch.Text.Blank

/-!
# Reading instants

The grammar is a lenient form of the internet date and time format:

* year, month and day are joined by `-`, hour, minute and second by `:`; numbers need no leading
  zeros, and blanks may stand before every number and separator;
* a year has at most four digits, or a sign and any number of them; all other numbers have at most
  two digits, and second 60 is a leap second;
* one of `T`, `t` and the space stands between date and time;
* a fraction of a second may have any number of digits, of which nine count;
* the offset is `Z`, `z`, `UTC` in any case, or a sign, two digits of hours, any colons and blanks,
  and two digits of minutes, and lies below a day.

Each step takes what it reads off the front of the text.

The form is the one that `chrono` reads.
-/

set_option autoImplicit false

namespace EstateSearch.Instant

open Decimal Text

def takeNumber? (most : Nat) (cs : List Char) : Option (Nat × List Char) :=
  let (ds, _) := takeDigits cs
  let ds := ds.take most
  if ds.isEmpty then none else some (valueOf ds, cs.drop ds.length)

def takeField? (low high : Nat) (cs : List Char) : Option (Nat × List Char) := do
  let (n, rest) ← takeNumber? 2 (trimStart cs)
  if low ≤ n && n ≤ high then some (n, rest) else none

def takeMark? (mark : Char) (cs : List Char) : Option (List Char) :=
  match trimStart cs with
  | c :: rest => if c = mark then some rest else none
  | [] => none

def takeYear? (cs : List Char) : Option (Int × List Char) :=
  match trimStart cs with
  | '-' :: rest => (takeNumber? rest.length rest).map fun (n, after) => (-(n : Int), after)
  | '+' :: rest => (takeNumber? rest.length rest).map fun (n, after) => ((n : Int), after)
  | cs => (takeNumber? 4 cs).map fun (n, after) => ((n : Int), after)

def takeDate? (cs : List Char) : Option (Date × List Char) := do
  let (year, cs) ← takeYear? cs
  let cs ← takeMark? '-' cs
  let (month, cs) ← takeField? 1 12 cs
  let cs ← takeMark? '-' cs
  let (day, cs) ← takeField? 1 31 cs
  let date : Date := ⟨year, month, day⟩
  if date.isValid && yearInRange year then some (date, cs) else none

def takeDivider? : List Char → Option (List Char)
  | c :: rest => if c = 'T' || c = 't' || c = ' ' then some rest else none
  | [] => none

/-- Reads the fraction of a second in nanoseconds, if there is a point; digits after the ninth do
not count. -/
def takeFraction? : List Char → Option (Nat × List Char)
  | '.' :: cs =>
    match takeDigits cs with
    | ([], _) => none
    | (ds, rest) =>
      let kept := ds.take 9
      some (valueOf kept * Nat.pow 10 (9 - kept.length), rest)
  | cs => some (0, cs)

def takeTime? (cs : List Char) : Option (Nat × Nat × List Char) := do
  let (hour, cs) ← takeField? 0 23 cs
  let cs ← takeMark? ':' cs
  let (minute, cs) ← takeField? 0 59 cs
  let cs ← takeMark? ':' cs
  let (second, cs) ← takeField? 0 60 cs
  let (nanos, cs) ← takeFraction? cs
  let leap := if second = 60 then 1 else 0
  return (hour * 3600 + minute * 60 + (second - leap), nanos + leap * 1000000000, cs)

/-- Reads exactly two digits, of which the first is at most `first`. -/
def takeTwoDigits? (first : Nat) : List Char → Option (Nat × List Char)
  | a :: b :: rest => do
    let a ← digit? a
    let b ← digit? b
    if a.val ≤ first then some (a.val * 10 + b.val, rest) else none
  | _ => none

/-- The sign of an offset: plus, hyphen or the minus sign proper. -/
def offsetSign? (c : Char) : Option Int :=
  if c = '+' then some 1 else if c = '-' || c = '−' then some (-1) else none

def dropUniversal? : List Char → Option (List Char)
  | u :: t :: c :: rest =>
    if (u = 'U' || u = 'u') && (t = 'T' || t = 't') && (c = 'C' || c = 'c') then some rest else none
  | _ => none

def takeOffset? : List Char → Option (Int × List Char)
  | [] => none
  | c :: cs => do
    let sign ← offsetSign? c
    let (hours, cs) ← takeTwoDigits? 9 cs
    let (minutes, cs) ← takeTwoDigits? 5 (cs.dropWhile fun c => c = ':' || isBlank c)
    if hours < 24 then some (sign * (hours * 3600 + minutes * 60 : Nat), cs) else none

/-- Reads the zone that a time is given in, as seconds ahead of universal time. -/
def takeZone? (cs : List Char) : Option (Int × List Char) :=
  match dropUniversal? cs with
  | some rest => some (0, rest)
  | none =>
    match cs with
    | 'Z' :: rest => some (0, rest)
    | 'z' :: rest => some (0, rest)
    | cs => takeOffset? cs

/-- Reads an instant; the whole text must be used up but for trailing blanks. -/
def parse? (cs : List Char) : Option Instant := do
  let (date, cs) ← takeDate? cs
  let cs ← takeDivider? cs
  let (second, nanos, cs) ← takeTime? cs
  let (offset, cs) ← takeZone? (trimStart cs)
  let t : Instant := ⟨date.dayNumber * 86400 + second - offset, nanos⟩
  if isBlankText cs && yearInRange t.date.year then some t else none

def ofString? (text : String) : Option Instant :=
  parse? text.toList

end EstateSearch.Instant
