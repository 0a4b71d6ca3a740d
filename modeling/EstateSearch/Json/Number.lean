import EstateSearch.Decimal.Notation
import EstateSearch.Json.Basic

/-!
# Numbers in JSON

Integers are numerals without fraction and exponent that fit into 64 bits. A binary64 number is read
from any numeral by a fixed rule that is close to correct rounding but not equal to it: the leading
digits that fit into 64 bits are rounded to a number, which is then multiplied or divided by a power
of ten. Numbers are written with the fewest digits that are read back correctly rounded.

The rule is that of `serde_json` without correct rounding.
-/

set_option autoImplicit false

namespace EstateSearch.Json

open Decimal

/-- The integer that a numeral writes, if it has neither fraction nor exponent. There is no
negative zero among the integers. -/
def integer? (n : Numeral) : Option Int :=
  if n.fraction.isEmpty && n.exponent.isNone then
    let size : Int := valueOf n.whole
    if n.negative then (if size = 0 then none else some (-size)) else some size
  else none

def int64? (n : Numeral) : Option Int64 := do
  let i ← integer? n
  if Int64.minValue.toInt ≤ i && i ≤ Int64.maxValue.toInt then some (Int64.ofInt i) else none

/-- Appends digits to a number as long as it stays below `2 ^ 64`; what is left over is returned
too. -/
def appendDigits (significand : Nat) : List Digit → Nat × List Digit
  | [] => (significand, [])
  | d :: ds =>
    let next := significand * 10 + d.val
    if next < UInt64.size then appendDigits next ds else (significand, d :: ds)

/-- The leading digits of a numeral as a number, and the power of ten that goes with it. -/
def scaledDigits (n : Numeral) : Nat × Int :=
  let (significand, dropped) := appendDigits 0 n.whole
  let (significand, unread) := appendDigits significand n.fraction
  (significand, (dropped.length : Int) - (n.fraction.length - unread.length : Nat))

def greatestPower : Nat := 308

/-- A number that is not negative times a power of ten; none if the result is too large. Small
powers take several steps. -/
def scale? (x : Binary64) (power : Int) : Option Binary64 :=
  if power.natAbs ≤ greatestPower then
    let factor := Binary64.ofDecimal false 1 power.natAbs
    if 0 ≤ power then
      let product := x.times factor
      if product.isFinite then some product else none
    else some (x.dividedBy factor)
  else if x.magnitude = 0 then some x
  else if 0 ≤ power then none
  else scale? (x.dividedBy (Binary64.ofDecimal false 1 greatestPower)) (power + greatestPower)
termination_by power.natAbs
decreasing_by
  simp only [greatestPower] at *
  omega

/-- The absolute value of the number that a numeral writes; none if it is too large. Exponents that
need more than 32 bits are not looked at closely. -/
def magnitude? (n : Numeral) : Option Binary64 :=
  let (significand, power) := scaledDigits n
  let exponent := n.exponent.getD 0
  if Nat.pow 2 31 ≤ exponent.natAbs then
    if significand ≠ 0 && 0 ≤ exponent then none else some Binary64.zero
  else scale? (Binary64.ofInt significand) (power + exponent)

/-- The binary64 number that a numeral writes; none if it is too large. -/
def binary64? (n : Numeral) : Option Binary64 :=
  (magnitude? n).map fun x => if n.negative then x.negate else x

def numeralOfInt (i : Int) : Numeral := ⟨i < 0, digits i.natAbs, [], none⟩

/-- Numbers from 0.00001 up to 10 to the 16th are written without exponent, and always with a
point; a half goes to the even digit. -/
def numberLayout : Layout := ⟨.toEven, some (-4, 16), true⟩

def ofInt64 (i : Int64) : Json := .number (numeralOfInt i.toInt)

def ofNat (n : Nat) : Json := .number (numeralOfInt n)

def ofBinary64 (x : Binary64) : Json :=
  if x.isFinite then .number (numberLayout.numeral x) else .null

end EstateSearch.Json
