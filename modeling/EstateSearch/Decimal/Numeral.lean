import EstateSearch.Decimal.Digits

/-!
# Decimal numerals

A numeral is a decimal number as it is written: a sign, whole digits, the digits after the point
and an exponent. `text` writes one and `take?` reads the longest one at the start of a text, in the
grammar where a whole part has no leading zero, a point has digits on both sides and an exponent
has digits.

JSON texts and the listings of `search/src/predicate/types` are made of these.
-/

set_option autoImplicit false

namespace EstateSearch.Decimal

/-- A written decimal number. Without a point there are no fraction digits. -/
structure Numeral where
  negative : Bool
  whole : List Digit
  fraction : List Digit
  exponent : Option Int
  deriving DecidableEq, Repr

namespace Numeral

def sign (negative : Bool) : List Char :=
  if negative then ['-'] else []

def fractionText (fraction : List Digit) : List Char :=
  if fraction.isEmpty then [] else '.' :: spell fraction

/-- The written exponent; its sign is always written. -/
def exponentText : Option Int → List Char
  | none => []
  | some e => 'e' :: (if e < 0 then '-' else '+') :: spell (digits e.natAbs)

def text (n : Numeral) : List Char :=
  sign n.negative ++ spell n.whole ++ fractionText n.fraction ++ exponentText n.exponent

/-- Reads the whole digits: a single zero, or digits of which the first is not zero. -/
def takeWhole? (cs : List Char) : Option (List Digit × List Char) :=
  match takeDigits cs with
  | ([], _) => none
  | (d :: ds, rest) => if d.val = 0 && !ds.isEmpty then none else some (d :: ds, rest)

/-- Reads a point and the digits after it, if there is a point. -/
def takeFraction? : List Char → Option (List Digit × List Char)
  | '.' :: cs =>
    match takeDigits cs with
    | ([], _) => none
    | (ds, rest) => some (ds, rest)
  | cs => some ([], cs)

def takeExponentDigits? (negative : Bool) (cs : List Char) : Option (Option Int × List Char) :=
  match takeDigits cs with
  | ([], _) => none
  | (ds, rest) =>
    let size : Int := valueOf ds
    some (some (if negative then -size else size), rest)

def takeExponent? : List Char → Option (Option Int × List Char)
  | c :: cs =>
    if c = 'e' || c = 'E' then
      match cs with
      | '+' :: ds => takeExponentDigits? false ds
      | '-' :: ds => takeExponentDigits? true ds
      | ds => takeExponentDigits? false ds
    else some (none, c :: cs)
  | [] => some (none, [])

/-- Reads the numeral at the start of a text; none if there is none or it breaks off. -/
def take? (cs : List Char) : Option (Numeral × List Char) := do
  let (negative, cs) :=
    match cs with
    | '-' :: rest => (true, rest)
    | cs => (false, cs)
  let (whole, cs) ← takeWhole? cs
  let (fraction, cs) ← takeFraction? cs
  let (exponent, cs) ← takeExponent? cs
  return (⟨negative, whole, fraction, exponent⟩, cs)

end Numeral

end EstateSearch.Decimal
