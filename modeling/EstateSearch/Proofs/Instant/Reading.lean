import EstateSearch.Instant.Parser
import EstateSearch.Instant.Printer
import EstateSearch.Proofs.Decimal.Numeral
import EstateSearch.Proofs.Instant.Calendar
import Mathlib.Data.List.Induction
import Mathlib.Tactic.Ring

/-!
# Reading back instants

An instant that the calendar has room for is read back from its text in records
(`ofString?_recordText`), and only such instants are read (`isSupported_of_parse?`).

Numbers are written with leading zeros, so a reader that takes at most as many digits as were
written takes all of them (`takeNumber?_padded`). A leap second is written as second 60, and only a
second that ends a minute has one.
-/

set_option autoImplicit false

namespace EstateSearch.Instant

open Decimal Text

/-- The instant lies in the range of years, and its nanoseconds go beyond a second only in the last
second of a minute, for a leap second. -/
structure IsSupported (t : Instant) : Prop where
  year : yearInRange t.date.year = true
  nanos : t.nanos < 2000000000
  leap : 1000000000 ≤ t.nanos → t.seconds % 60 = 59

instance (t : Instant) : Decidable t.IsSupported :=
  decidable_of_iff
    (yearInRange t.date.year = true ∧ t.nanos < 2000000000 ∧
      (1000000000 ≤ t.nanos → t.seconds % 60 = 59))
    ⟨fun ⟨year, nanos, leap⟩ => ⟨year, nanos, leap⟩, fun h => ⟨h.year, h.nanos, h.leap⟩⟩

/-! ### Padded numbers -/

def paddedDigits (width n : Nat) : List Digit :=
  List.replicate (width - (digits n).length) ⟨0, by decide⟩ ++ digits n

theorem padded_eq (width n : Nat) : padded width n = spell (paddedDigits width n) := by
  have zero : Digit.toChar ⟨0, by decide⟩ = '0' := by decide
  rw [padded, paddedDigits, spell, spell, List.map_append, List.map_replicate, zero,
    List.length_map]

theorem valueOf_paddedDigits (width n : Nat) : valueOf (paddedDigits width n) = n := by
  have zeros (count : Nat) (ds : List Digit) :
      valueOf (List.replicate count ⟨0, by decide⟩ ++ ds) = valueOf ds := by
    induction count with
    | zero => rfl
    | succ count ih =>
      rw [List.replicate_succ, List.cons_append, ← ih]
      rfl
  rw [paddedDigits, zeros, valueOf_digits]

theorem paddedDigits_ne_nil (width n : Nat) : paddedDigits width n ≠ [] := by
  simp [paddedDigits, digits_ne_nil]

theorem length_digits_le {n width : Nat} (positive : 0 < width) (h : n < 10 ^ width) :
    (digits n).length ≤ width := by
  induction width generalizing n with
  | zero => omega
  | succ width ih =>
    rw [digits]
    split
    · simp
    · rename_i several
      have more : 0 < width := by
        rw [Nat.pos_iff_ne_zero]
        rintro rfl
        omega
      have shorter := ih (n := n / 10) more (by rw [pow_succ] at h; omega)
      rw [List.length_append, List.length_singleton]
      omega

theorem length_paddedDigits {n width : Nat} (positive : 0 < width) (h : n < 10 ^ width) :
    (paddedDigits width n).length = width := by
  have fits := length_digits_le positive h
  rw [paddedDigits, List.length_append, List.length_replicate]
  omega

/-! ### Readers -/

theorem trimStart_cons {c : Char} (h : isBlank c = false) (cs : List Char) :
    trimStart (c :: cs) = c :: cs := by
  rw [trimStart, List.dropWhile_cons_of_neg (by simp [h])]

theorem isBlank_toChar (d : Digit) : isBlank d.toChar = false := by
  revert d
  decide

/-- A printed number does not start with a blank, so nothing in front of it is dropped. -/
theorem trimStart_padded (width n : Nat) (rest : List Char) :
    trimStart (padded width n ++ rest) = padded width n ++ rest := by
  obtain ⟨d, ds, found⟩ := List.exists_cons_of_ne_nil (paddedDigits_ne_nil width n)
  rw [padded_eq, found]
  exact trimStart_cons (isBlank_toChar d) _

/-- All digits that were written are taken, if the reader takes so many. -/
theorem takeNumber?_padded {width n most : Nat} (enough : (paddedDigits width n).length ≤ most)
    {rest : List Char} (h : StartsNoDigit rest) :
    takeNumber? most (padded width n ++ rest) = some (n, rest) := by
  have whole : (paddedDigits width n).take most = paddedDigits width n :=
    List.take_of_length_le enough
  have nonempty : (paddedDigits width n).isEmpty = false := by
    simpa using paddedDigits_ne_nil width n
  have length : (paddedDigits width n).length = (spell (paddedDigits width n)).length := by
    simp [spell]
  rw [takeNumber?, padded_eq, takeDigits_spell_append _ h]
  simp only [whole, nonempty, valueOf_paddedDigits, length, List.drop_left, Bool.false_eq_true,
    if_false]

theorem takeField?_padded {low high n : Nat} (range : low ≤ n ∧ n ≤ high) (two : n < 100)
    {rest : List Char} (h : StartsNoDigit rest) :
    takeField? low high (padded 2 n ++ rest) = some (n, rest) := by
  have fits : (paddedDigits 2 n).length ≤ 2 := (length_paddedDigits (by decide) two).le
  have inRange : (decide (low ≤ n) && decide (n ≤ high)) = true := by simpa using range
  rw [takeField?, trimStart_padded, takeNumber?_padded fits h]
  exact if_pos inRange

theorem takeMark?_cons (mark : Char) (h : isBlank mark = false) (rest : List Char) :
    takeMark? mark (mark :: rest) = some rest := by
  rw [takeMark?, trimStart_cons h]
  simp

/-- Years are read back in both of their forms, with and without a sign. -/
theorem takeYear?_yearText (year : Int) {rest : List Char} (h : StartsNoDigit rest) :
    takeYear? (yearText year ++ rest) = some (year, rest) := by
  have length (n : Nat) : (paddedDigits 4 n).length ≤ (padded 4 n ++ rest).length := by
    simp [padded_eq, spell]
  rw [yearText]
  split
  · rename_i fourDigits
    rw [Bool.and_eq_true, decide_eq_true_iff, decide_eq_true_iff] at fourDigits
    have fits : (paddedDigits 4 year.toNat).length ≤ 4 :=
      (length_paddedDigits (by decide) (by omega)).le
    have value : (year.toNat : Int) = year := by omega
    have read := takeNumber?_padded fits h
    -- Four digits without a sign; a digit is neither of the two signs.
    have unsigned : takeYear? (padded 4 year.toNat ++ rest) =
        (takeNumber? 4 (padded 4 year.toNat ++ rest)).map fun read => ((read.1 : Int), read.2) := by
      obtain ⟨d, ds, found⟩ := List.exists_cons_of_ne_nil (paddedDigits_ne_nil 4 year.toNat)
      have noSign : ∀ d : Digit, d.toChar ≠ '-' ∧ d.toChar ≠ '+' := by decide
      rw [takeYear?, trimStart_padded, padded_eq, found]
      split
      · rename_i minus
        exact absurd (List.cons.inj minus).1 (noSign d).1
      · rename_i plus
        exact absurd (List.cons.inj plus).1 (noSign d).2
      · rfl
    simp only [unsigned, read, Option.map_some, value]
  · rename_i signed
    have read := takeNumber?_padded (length year.natAbs) h
    by_cases negative : year < 0
    · have value : -(year.natAbs : Int) = year := by omega
      rw [if_pos negative, List.cons_append, takeYear?, trimStart_cons (by decide)]
      simp only [read, Option.map_some, value]
    · have value : (year.natAbs : Int) = year := by omega
      rw [if_neg negative, List.cons_append, takeYear?, trimStart_cons (by decide)]
      simp only [read, Option.map_some, value]

theorem daysInMonth_le (year : Int) (month : Nat) : daysInMonth year month ≤ 31 := by
  unfold daysInMonth
  split <;> first | decide | (split <;> decide)

/-- A date of the calendar in the range of years is read back. -/
theorem takeDate?_date {d : Date} (valid : d.isValid = true) (month : 1 ≤ d.month ∧ d.month ≤ 12)
    (year : yearInRange d.year = true) {rest : List Char} (h : StartsNoDigit rest) :
    takeDate? (yearText d.year ++ '-' :: (padded 2 d.month ++ '-' :: (padded 2 d.day ++ rest))) =
      some (d, rest) := by
  have noDigit (more : List Char) : StartsNoDigit ('-' :: more) :=
    startsNoDigit_cons (by decide) more
  have mark (more : List Char) := takeMark?_cons '-' (by decide) more
  have day : 1 ≤ d.day ∧ d.day ≤ 31 := by
    have days := daysInMonth_le d.year d.month
    rw [Date.isValid, Bool.and_eq_true, decide_eq_true_iff, decide_eq_true_iff] at valid
    omega
  simp only [takeDate?, takeYear?_yearText d.year (noDigit _), Option.bind_eq_bind,
    Option.bind_some, mark, takeField?_padded month (by omega) (noDigit _),
    takeField?_padded day (by omega) h]
  rw [if_pos (by rw [valid, year]; rfl)]

theorem takeFraction?_padded {width n : Nat} (range : 0 < width ∧ width ≤ 9) (fits : n < 10 ^ width)
    {rest : List Char} (h : StartsNoDigit rest) :
    takeFraction? ('.' :: (padded width n ++ rest)) = some (n * 10 ^ (9 - width), rest) := by
  have length := length_paddedDigits range.1 fits
  have kept : (paddedDigits width n).take 9 = paddedDigits width n :=
    List.take_of_length_le (by omega)
  rw [padded_eq, takeFraction?, takeDigits_spell_append _ h]
  split
  · rename_i none
    exact absurd (congrArg Prod.fst none) (paddedDigits_ne_nil width n)
  · rename_i read
    obtain ⟨rfl, rfl⟩ := Prod.mk.inj read
    simp only [kept, valueOf_paddedDigits, length]
    rfl

theorem takeFraction?_fractionText {nanos : Nat} (h : nanos < 1000000000) {rest : List Char}
    (ends : Numeral.Ends rest) :
    takeFraction? (fractionText nanos ++ rest) = some (nanos, rest) := by
  rw [fractionText]
  split
  · rename_i zero
    rw [zero, List.nil_append]
    cases rest with
    | nil => rfl
    | cons c rest =>
      have noPoint : c ≠ '.' := (ends.2 c rfl).1
      simp [takeFraction?, noPoint]
  split
  · have whole : nanos / 1000000 * 10 ^ (9 - 3) = nanos := by omega
    rw [List.cons_append, takeFraction?_padded (by decide) (by omega) ends.1, whole]
  split
  · have whole : nanos / 1000 * 10 ^ (9 - 6) = nanos := by omega
    rw [List.cons_append, takeFraction?_padded (by decide) (by omega) ends.1, whole]
  · have whole : nanos * 10 ^ (9 - 9) = nanos := by omega
    rw [List.cons_append, takeFraction?_padded (by decide) (by omega) ends.1, whole]

theorem startsNoDigit_fractionText {nanos : Nat} {rest : List Char} (h : StartsNoDigit rest) :
    StartsNoDigit (fractionText nanos ++ rest) := by
  have point (more : List Char) : StartsNoDigit ('.' :: more) := startsNoDigit_cons (by decide) more
  rw [fractionText]
  split
  · exact h
  split
  · exact point _
  split
  · exact point _
  · exact point _

/-- The time of day is read back: second 60 stands for a leap second. -/
theorem takeTime?_time {second nanos : Nat} (inDay : second < 86400) (h : nanos < 2000000000)
    (leap : 1000000000 ≤ nanos → second % 60 = 59) {rest : List Char} (ends : Numeral.Ends rest) :
    takeTime? (padded 2 (second / 3600) ++ ':' :: (padded 2 (second / 60 % 60) ++ ':' ::
      (padded 2 (second % 60 + nanos / 1000000000) ++
        (fractionText (nanos % 1000000000) ++ rest)))) = some (second, nanos, rest) := by
  have noDigit (more : List Char) : StartsNoDigit (':' :: more) :=
    startsNoDigit_cons (by decide) more
  have mark (more : List Char) := takeMark?_cons ':' (by decide) more
  have hour (more : List Char) :
      takeField? 0 23 (padded 2 (second / 3600) ++ ':' :: more) =
        some (second / 3600, ':' :: more) :=
    takeField?_padded (by omega) (by omega) (noDigit more)
  have minute (more : List Char) :
      takeField? 0 59 (padded 2 (second / 60 % 60) ++ ':' :: more) =
        some (second / 60 % 60, ':' :: more) :=
    takeField?_padded (by omega) (by omega) (noDigit more)
  have written : takeField? 0 60 (padded 2 (second % 60 + nanos / 1000000000) ++
      (fractionText (nanos % 1000000000) ++ rest)) =
        some (second % 60 + nanos / 1000000000, fractionText (nanos % 1000000000) ++ rest) :=
    takeField?_padded (by omega) (by omega) (startsNoDigit_fractionText ends.1)
  have fraction : takeFraction? (fractionText (nanos % 1000000000) ++ rest) =
      some (nanos % 1000000000, rest) := takeFraction?_fractionText (by omega) ends
  -- Only with a leap second is 60 written, and then it is taken off again.
  simp only [takeTime?, hour, minute, written, fraction, mark, Option.bind_eq_bind,
    Option.bind_some, Option.pure_def, Option.some.injEq, Prod.mk.injEq, and_true]
  split <;> omega

/-- A supported instant is read back from its text in records. -/
theorem ofString?_recordText {t : Instant} (h : t.IsSupported) :
    ofString? t.recordText = some t := by
  have valid : t.date.isValid = true ∧ 1 ≤ t.date.month ∧ t.date.month ≤ 12 :=
    Date.isValid_ofDayNumber (t.seconds / 86400)
  have day : t.date.dayNumber = t.seconds / 86400 := Date.dayNumber_ofDayNumber _
  have ends : Numeral.Ends ['Z'] := Numeral.ends_cons (by decide) (by decide) []
  have second : t.secondOfDay < 86400 := by
    rw [secondOfDay]
    omega
  have leap : 1000000000 ≤ t.nanos → t.secondOfDay % 60 = 59 := by
    intro beyond
    have last := h.leap beyond
    rw [secondOfDay]
    omega
  have date (more : List Char) := takeDate?_date valid.1 valid.2 h.year
    (startsNoDigit_cons (c := 'T') (by decide) more)
  have time := takeTime?_time second h.nanos leap ends
  have text : t.recordText.toList = yearText t.date.year ++ '-' :: (padded 2 t.date.month ++
      '-' :: (padded 2 t.date.day ++ 'T' :: (padded 2 (t.secondOfDay / 3600) ++
        ':' :: (padded 2 (t.secondOfDay / 60 % 60) ++ ':' ::
          (padded 2 (t.secondOfDay % 60 + t.nanos / 1000000000) ++
            (fractionText (t.nanos % 1000000000) ++ ['Z'])))))) := by
    simp [recordText, textWith]
  have divider (more : List Char) : takeDivider? ('T' :: more) = some more := rfl
  have zone : takeZone? (trimStart ['Z']) = some (0, []) := by decide
  have same : t.date.dayNumber * 86400 + t.secondOfDay - 0 = t.seconds := by
    rw [day, secondOfDay]
    omega
  have nothing : isBlankText [] = true := rfl
  rw [ofString?, text, parse?, date]
  simp only [Option.bind_eq_bind, Option.bind_some, divider, time, zone, same, nothing, h.year,
    Bool.and_self, if_true]

/-! ### What is read is supported -/

theorem range_of_takeField? {low high n : Nat} {cs rest : List Char}
    (h : takeField? low high cs = some (n, rest)) : low ≤ n ∧ n ≤ high := by
  rw [takeField?, Option.bind_eq_bind, Option.bind_eq_some_iff] at h
  obtain ⟨⟨m, after⟩, -, checked⟩ := h
  dsimp only at checked
  split at checked
  · rename_i inRange
    obtain ⟨rfl, -⟩ := Prod.mk.inj (Option.some.inj checked)
    simpa using inRange
  · cases checked

theorem valueOf_lt (ds : List Digit) : valueOf ds < 10 ^ ds.length := by
  induction ds using List.reverseRecOn with
  | nil => decide
  | append_singleton ds d ih =>
    rw [valueOf_append_singleton, List.length_append, List.length_singleton, pow_succ]
    have digit := d.isLt
    omega

theorem nanos_of_takeFraction? {nanos : Nat} {cs rest : List Char}
    (h : takeFraction? cs = some (nanos, rest)) : nanos < 1000000000 := by
  rw [takeFraction?.eq_def] at h
  split at h
  · split at h
    · cases h
    · rename_i ds after nonempty taken
      obtain ⟨rfl, -⟩ := Prod.mk.inj (Option.some.inj h)
      have length : (ds.take 9).length ≤ 9 := List.length_take_le 9 ds
      calc valueOf (ds.take 9) * Nat.pow 10 (9 - (ds.take 9).length)
          < 10 ^ (ds.take 9).length * 10 ^ (9 - (ds.take 9).length) :=
            Nat.mul_lt_mul_of_pos_right (valueOf_lt _) (Nat.pow_pos (by decide))
        _ = 1000000000 := by rw [← pow_add, Nat.add_sub_cancel' length]; rfl
  · obtain ⟨rfl, -⟩ := Prod.mk.inj (Option.some.inj h)
    decide

/-- A time with a leap second is the last one of its minute. -/
theorem nanos_of_takeTime? {second nanos : Nat} {cs rest : List Char}
    (h : takeTime? cs = some (second, nanos, rest)) :
    nanos < 2000000000 ∧ (1000000000 ≤ nanos → second % 60 = 59) := by
  simp only [takeTime?, Option.bind_eq_bind, Option.bind_eq_some_iff] at h
  obtain ⟨⟨hour, _⟩, -, _, -, ⟨minute, _⟩, -, _, -, ⟨written, _⟩, secondField, ⟨fraction, _⟩,
    fractionField, found⟩ := h
  have range := range_of_takeField? secondField
  have small := nanos_of_takeFraction? fractionField
  dsimp only at found small range
  simp only [Option.pure_def, Option.some.injEq, Prod.mk.injEq] at found
  obtain ⟨rfl, rfl, -⟩ := found
  split <;> omega

/-- Offsets are whole minutes, so they leave the second of a minute as it is. -/
theorem minutes_of_takeOffset? {offset : Int} {cs rest : List Char}
    (h : takeOffset? cs = some (offset, rest)) : offset % 60 = 0 := by
  rw [takeOffset?.eq_def] at h
  split at h
  · cases h
  · simp only [Option.bind_eq_bind, Option.bind_eq_some_iff] at h
    obtain ⟨sign, -, ⟨hours, _⟩, -, ⟨minutes, _⟩, -, found⟩ := h
    dsimp only at found
    split at found
    · obtain ⟨rfl, -⟩ := Prod.mk.inj (Option.some.inj found)
      have whole : sign * ((hours * 3600 + minutes * 60 : Nat) : Int) =
          60 * (sign * (hours * 60 + minutes)) := by
        push_cast
        ring
      rw [whole, Int.mul_emod_right]
    · cases found

/-- A zone is ahead of universal time by whole minutes. -/
theorem minutes_of_takeZone? {offset : Int} {cs rest : List Char}
    (h : takeZone? cs = some (offset, rest)) : offset % 60 = 0 := by
  have universal {after : List Char} (found : some ((0 : Int), after) = some (offset, rest)) :
      offset % 60 = 0 := by
    obtain ⟨rfl, -⟩ := Prod.mk.inj (Option.some.inj found)
    rfl
  unfold takeZone? at h
  split at h
  · exact universal h
  · split at h
    · exact universal h
    · exact universal h
    · exact minutes_of_takeOffset? h

/-- Only supported instants are read. -/
theorem isSupported_of_parse? {cs : List Char} {t : Instant} (h : parse? cs = some t) :
    t.IsSupported := by
  simp only [parse?, Option.bind_eq_bind, Option.bind_eq_some_iff] at h
  obtain ⟨⟨date, _⟩, -, _, -, ⟨second, nanos, _⟩, time, ⟨offset, _⟩, zone, found⟩ := h
  obtain ⟨small, leap⟩ := nanos_of_takeTime? time
  have minutes := minutes_of_takeZone? zone
  dsimp only at found
  split at found
  · rename_i inRange
    obtain rfl := Option.some.inj found
    refine ⟨(Bool.and_eq_true_iff.1 inRange).2, small, fun beyond => ?_⟩
    have last := leap beyond
    dsimp only
    omega
  · cases found

end EstateSearch.Instant
