/-!
# Binary64 numbers

Prices and surfaces are IEEE 754 binary64 numbers. They are kept as their bit pattern, so that
order, rounding and decimal text are plain arithmetic on natural numbers: a finite number is
`significand · 2 ^ exponent` up to its sign, and the patterns of the non-negative numbers stand in
the order of the numbers.

Source: the numbers of `search/src/criteria`, `search/src/record` and `search/src/predicate/types`.
-/

set_option autoImplicit false

namespace EstateSearch

/-- An IEEE 754 binary64 number by its bit pattern. -/
structure Binary64 where
  bits : UInt64
  deriving DecidableEq, Repr

namespace Binary64

/-- The pattern of positive infinity; the patterns above it, sign apart, are not numbers. -/
def infinityBits : Nat := 0x7FF0000000000000

/-- The number whose pattern is `magnitude` with the sign bit set or cleared. -/
def ofMagnitude (negative : Bool) (magnitude : Nat) : Binary64 :=
  ⟨UInt64.ofNat (magnitude + if negative then Nat.pow 2 63 else 0)⟩

def zero : Binary64 := ofMagnitude false 0

def infinity (negative : Bool) : Binary64 := ofMagnitude negative infinityBits

def notANumber : Binary64 := ofMagnitude false 0x7FF8000000000000

/-- Is the sign bit set? Negative zero has it set too. -/
def isNegative (x : Binary64) : Bool := Nat.pow 2 63 ≤ x.bits.toNat

def magnitude (x : Binary64) : Nat := x.bits.toNat % Nat.pow 2 63

def isNaN (x : Binary64) : Bool := infinityBits < x.magnitude

def isFinite (x : Binary64) : Bool := x.magnitude < infinityBits

/-- The place of a number in the order of the numbers: both zeros stand at 0, and the infinities
at the ends. -/
def rank (x : Binary64) : Int :=
  if x.isNegative then -(x.magnitude : Int) else (x.magnitude : Int)

/-- The order of two numbers; none if one of them is no number. -/
def compare? (x y : Binary64) : Option Ordering :=
  if x.isNaN || y.isNaN then none else some (compare x.rank y.rank)

/-- Numerical equality: the two zeros are equal, and what is no number equals nothing. -/
def sameNumber (x y : Binary64) : Bool :=
  x.compare? y == some .eq

def exponentField (x : Binary64) : Nat := x.magnitude / Nat.pow 2 52

/-- The integer significand of a finite number, with the leading bit that the pattern leaves out. -/
def significand (x : Binary64) : Nat :=
  let fraction := x.magnitude % Nat.pow 2 52
  if x.exponentField = 0 then fraction else Nat.pow 2 52 + fraction

/-- The exponent of two that goes with the significand. -/
def exponent (x : Binary64) : Int :=
  (max x.exponentField 1 : Nat) - 1075

def negate (x : Binary64) : Binary64 := ofMagnitude (!x.isNegative) x.magnitude

/-- `num / den` rounded to the nearest integer, a half to the even neighbour. -/
def divideToEven (num den : Nat) : Nat :=
  let floor := num / den
  let rest := num % den
  if den < 2 * rest || (2 * rest == den && floor % 2 == 1) then floor + 1 else floor

/-- `num / (den · 2 ^ exponent)` as a fraction of natural numbers. -/
def scaled (num den : Nat) (exponent : Int) : Nat × Nat :=
  (num * Nat.pow 2 (-exponent).toNat, den * Nat.pow 2 exponent.toNat)

/-- The exponent at which the significand of `num / den` has 53 bits, or the least exponent. -/
def exponentFor (num den : Nat) : Int :=
  let guess : Int := (num.log2 : Int) - (den.log2 : Int) - 52
  let (n, d) := scaled num den guess
  max (if n / d < Nat.pow 2 52 then guess - 1 else guess) (-1074)

/-- The number nearest to `num / den`, of two equally near ones the one with an even significand.
Quotients from half a step above the greatest finite number on become infinite. -/
def ofRatio (negative : Bool) (num den : Nat) : Binary64 :=
  if num = 0 then ofMagnitude negative 0
  else
    let e := exponentFor num den
    let (n, d) := scaled num den e
    let magnitude := (e + 1074).toNat * Nat.pow 2 52 + divideToEven n d
    ofMagnitude negative (min magnitude infinityBits)

def ofInt (i : Int) : Binary64 := ofRatio (i < 0) i.natAbs 1

/-- The number nearest to `coefficient · 10 ^ power`. Powers far outside the range of the numbers
are cut off first, which changes no result. -/
def ofDecimal (negative : Bool) (coefficient : Nat) (power : Int) : Binary64 :=
  if coefficient = 0 then ofMagnitude negative 0
  else if 400 < power then infinity negative
  else if power < -400 - coefficient.log2 then ofMagnitude negative 0
  else ofRatio negative (coefficient * Nat.pow 10 power.toNat) (Nat.pow 10 (-power).toNat)

def toRatio (x : Binary64) : Nat × Nat :=
  (x.significand * Nat.pow 2 x.exponent.toNat, Nat.pow 2 (-x.exponent).toNat)

/-- The rounded product of two finite numbers, of which the second is positive. -/
def times (x y : Binary64) : Binary64 :=
  let (a, b) := x.toRatio
  let (c, d) := y.toRatio
  ofRatio x.isNegative (a * c) (b * d)

/-- The rounded quotient of two finite numbers, of which the second is positive. -/
def dividedBy (x y : Binary64) : Binary64 :=
  let (a, b) := x.toRatio
  let (c, d) := y.toRatio
  ofRatio x.isNegative (a * d) (b * c)

example : ofRatio false 1 10 = ⟨0x3FB999999999999A⟩ := by decide +kernel
example : ofDecimal false 5 (-324) = ⟨1⟩ := by decide +kernel
example : ofDecimal false 17976931348623159 292 = infinity false := by decide +kernel
example : ofInt (-9007199254740993) = ⟨0xC340000000000000⟩ := by decide +kernel

end Binary64

end EstateSearch
