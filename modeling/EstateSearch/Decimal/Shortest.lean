import EstateSearch.Binary64
import EstateSearch.Decimal.Digits

/-!
# The shortest decimal of a binary64 number

A finite positive number stands for all reals that round to it. Its shortest decimal is the one
with the fewest digits among those reals, and of several with that many digits the one nearest to
the number. The grids of decimals with 1, 2, … 17 digits are tried in this order, and on each grid
only the two neighbours of the number, in exact arithmetic.
-/

set_option autoImplicit false

namespace EstateSearch.Decimal

/-- Which of two equally near decimals is taken. -/
inductive Tie where
  | toEven
  | upward
  deriving DecidableEq, Repr

/-- The reals that round to a number, as multiples of the fraction `1 / den`: from `low` to `high`
around the number itself at `value`. The ends belong to it when `closed` is set. -/
structure Neighbourhood where
  low : Nat
  value : Nat
  high : Nat
  den : Nat
  closed : Bool
  deriving Repr

def Neighbourhood.holds (n : Neighbourhood) (point den : Nat) : Bool :=
  if n.closed then n.low * den ≤ point * n.den && point * n.den ≤ n.high * den
  else n.low * den < point * n.den && point * n.den < n.high * den

/-- The neighbourhood of a finite number other than zero. Below a power of two the numbers lie half
as far apart as above it. -/
def Neighbourhood.of (x : Binary64) : Neighbourhood :=
  let m := x.significand
  let up := x.exponent - 2
  let unit := Nat.pow 2 up.toNat
  let narrow := x.magnitude % Nat.pow 2 52 = 0 && 1 < x.exponentField
  { low := (4 * m - if narrow then 1 else 2) * unit
    value := 4 * m * unit
    high := (4 * m + 2) * unit
    den := Nat.pow 2 (-up).toNat
    closed := m % 2 = 0 }

structure Scaled where
  coefficient : Nat
  power : Int
  deriving DecidableEq, Repr

/-- How many times `num / den` can be multiplied by ten and stay below one, at most `bound`. -/
def leadingZeros (den : Nat) : Nat → Nat → Nat
  | 0, _ => 0
  | bound + 1, num => if num * 10 < den then leadingZeros den bound (num * 10) + 1 else 0

/-- The position `p` of the leading digit of `num / den`: the quotient lies between `10 ^ (p - 1)`
and `10 ^ p`. -/
def leadingPosition (num den : Nat) : Int :=
  if den ≤ num then ((digits (num / den)).length : Int) else -(leadingZeros den 400 num : Int)

/-- The decimal with `count` digits that the neighbourhood holds and that lies nearest to its
number, if it holds any. -/
def Neighbourhood.onGrid (n : Neighbourhood) (tie : Tie) (position : Int) (count : Nat) :
    Option Scaled :=
  let power := position - count
  let grid := Nat.pow 10 power.toNat
  let cells := Nat.pow 10 (-power).toNat
  -- the number lies between `floor` and `floor + 1` steps of the grid
  let num := n.value * cells
  let den := n.den * grid
  let floor := num / den
  let rest := num % den
  let lower := n.holds (floor * grid) cells
  let upper := n.holds ((floor + 1) * grid) cells
  let pickUpper :=
    if lower && upper then
      den < 2 * rest || (2 * rest == den && (tie == .upward || floor % 2 == 1))
    else upper
  if pickUpper then some ⟨floor + 1, power⟩
  else if lower then some ⟨floor, power⟩
  else none

/-- The shortest decimal of a finite number other than zero. -/
def shortest (tie : Tie) (x : Binary64) : Scaled :=
  let n := Neighbourhood.of x
  let position := leadingPosition n.value n.den
  ((List.range 17).findSome? fun i => n.onGrid tie position (i + 1)).getD ⟨n.value / n.den, 0⟩

example : shortest .toEven ⟨0x3FB999999999999A⟩ = ⟨1, -1⟩ := by decide +kernel
example : shortest .toEven ⟨1⟩ = ⟨5, -324⟩ := by decide +kernel

end EstateSearch.Decimal
