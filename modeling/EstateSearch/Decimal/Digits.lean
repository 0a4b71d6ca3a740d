/-!
# Decimal digits of a natural number

`digits` writes a natural number in base ten, most significant digit first and without leading
zeros, and `valueOf` reads any digit string. Main statement: reading what was written gives the
number back.
-/

set_option autoImplicit false

namespace EstateSearch.Decimal

abbrev Digit := Fin 10

/-- The number that a digit string stands for; leading zeros do not count. -/
def valueOf (ds : List Digit) : Nat :=
  ds.foldl (fun acc d => acc * 10 + d.val) 0

/-- The decimal digits of a number; zero has the one digit 0. -/
def digits (n : Nat) : List Digit :=
  if h : n < 10 then [⟨n, h⟩]
  else digits (n / 10) ++ [⟨n % 10, Nat.mod_lt _ (by decide)⟩]
termination_by n
decreasing_by omega

def Digit.toChar (d : Digit) : Char :=
  Char.ofNat ('0'.toNat + d.val)

/-- The digit that a character is, if it is one of `0` to `9`. -/
def digit? (c : Char) : Option Digit :=
  if h : '0'.toNat ≤ c.toNat ∧ c.toNat ≤ '9'.toNat then
    some ⟨c.toNat - '0'.toNat, by
      have h2 : c.toNat ≤ 57 := h.2
      have h1 : '0'.toNat = 48 := rfl
      omega⟩
  else none

def spell (ds : List Digit) : List Char :=
  ds.map Digit.toChar

def natText (n : Nat) : String :=
  String.ofList (spell (digits n))

/-- The decimal text of an integer: a minus sign before a negative one. -/
def intText (i : Int) : String :=
  if i < 0 then "-" ++ natText i.natAbs else natText i.natAbs

/-- The longest run of digits at the start of a text, and what follows it. -/
def takeDigits : List Char → List Digit × List Char
  | [] => ([], [])
  | c :: rest =>
    match digit? c with
    | some d => let (ds, after) := takeDigits rest; (d :: ds, after)
    | none => ([], c :: rest)

def allDigits? (text : List Char) : Option (List Digit) :=
  text.mapM digit?

theorem valueOf_append_singleton (ds : List Digit) (d : Digit) :
    valueOf (ds ++ [d]) = valueOf ds * 10 + d.val := by
  simp [valueOf, List.foldl_append]

/-- Reading the written digits gives the number back. -/
theorem valueOf_digits (n : Nat) : valueOf (digits n) = n := by
  induction n using Nat.strongRecOn with
  | ind n ih =>
    unfold digits
    split
    · simp [valueOf]
    · rw [valueOf_append_singleton, ih (n / 10) (by omega)]
      simp only
      omega

/-- A digit is the digit of its character. -/
theorem digit?_toChar (d : Digit) : digit? d.toChar = some d := by
  revert d
  decide

end EstateSearch.Decimal
