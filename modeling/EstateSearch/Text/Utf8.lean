/-!
# UTF-8

The bytes of a code point, and the ranges of code points as sequences of ranges of bytes: a text of
bytes is the form of a code point in the range just if its bytes lie in the ranges of one sequence,
one in each.
-/

set_option autoImplicit false

namespace EstateSearch.Text

def utf8Bytes (n : Nat) : List Nat :=
  if n < 0x80 then [n]
  else if n < 0x800 then [0xC0 + n / 64, 0x80 + n % 64]
  else if n < 0x10000 then [0xE0 + n / 4096, 0x80 + n / 64 % 64, 0x80 + n % 64]
  else [0xF0 + n / 262144, 0x80 + n / 4096 % 64, 0x80 + n / 64 % 64, 0x80 + n % 64]

def utf8Length (byte : Nat) : Nat :=
  if byte < 0x80 then 1 else if byte < 0xE0 then 2 else if byte < 0xF0 then 3 else 4

def codePointOf (bytes : List Nat) : Nat :=
  match bytes with
  | [] => 0
  | first :: others =>
    let start := if first < 0x80 then first else first % Nat.pow 2 (7 - utf8Length first)
    others.foldl (fun n byte => n * 64 + byte % 64) start

/-- The character of which bytes are the form; none if they are not the form of any. -/
def charOfUtf8? (bytes : List Nat) : Option Char :=
  let n := codePointOf bytes
  if n.isValidChar && utf8Bytes n == bytes then some (Char.ofNat n) else none

/-- The characters of which bytes are the form, where there are at most `bound` of them. -/
def charsWithin? : (bound : Nat) → List Nat → Option (List Char)
  | _, [] => some []
  | 0, _ => none
  | bound + 1, first :: others => do
    let more := utf8Length first - 1
    let c ← charOfUtf8? (first :: others.take more)
    let text ← charsWithin? bound (others.drop more)
    return c :: text

/-- The text of which bytes are the form; none if they are not the form of any. -/
def charsOfUtf8? (bytes : List Nat) : Option (List Char) := charsWithin? bytes.length bytes

/-- Ranges of bytes, inclusive, for the bytes of a form in order. -/
abbrev ByteSequence := List (Nat × Nat)

/-- The last code points with one, two and three bytes. -/
def widthBounds : List Nat := [0x7F, 0x7FF, 0xFFFF]

/-- How many code points share all bytes but the last one, two or three. -/
def blockSizes : List Nat := [64, 4096, 262144]

/-- Where a range of code points must be cut because it is no product of ranges of bytes: the last
code point of the first part. -/
def splitPoint? (first last : Nat) : Option Nat :=
  match widthBounds.find? fun bound => first ≤ bound && bound < last with
  | some bound => some bound
  | none =>
    if last ≤ 0x7F then none
    else
      blockSizes.findSome? fun size =>
        if first / size = last / size then none
        else if first % size ≠ 0 then some (first / size * size + size - 1)
        else if last % size ≠ size - 1 then some (last / size * size - 1)
        else none

def byteSequencesWithin : (cuts first last : Nat) → List ByteSequence
  | 0, first, last => [(utf8Bytes first).zip (utf8Bytes last)]
  | cuts + 1, first, last =>
    match splitPoint? first last with
    | none => [(utf8Bytes first).zip (utf8Bytes last)]
    | some middle =>
      byteSequencesWithin cuts first middle ++ byteSequencesWithin cuts (middle + 1) last

/-- The sequences of ranges of bytes for a range of code points without surrogates, in order. Every
cut settles one of the three widths or one end of a block of one of three sizes, so there are at
most nine, one inside of the other. -/
def byteSequences (first last : Nat) : List ByteSequence := byteSequencesWithin 9 first last

end EstateSearch.Text
