import EstateSearch.Text.Lowercase

/-!
# Simple case folding

Two characters are case variants of each other if they fold to the same one. Folding is the
lowercase of the character, followed by a step to the usual form of a few letters that have several
lowercase forms. As patterns do, it goes by edition 16 of the character database.
-/

set_option autoImplicit false

namespace EstateSearch.Text

/-- Letters with more than one lowercase form: the other form and the usual one. -/
def otherForms : List (Nat × Nat) :=
  [(0x17F, 0x73), (0xB5, 0x3BC), (0x345, 0x3B9), (0x1FBE, 0x3B9), (0x1FD3, 0x390), (0x3D0, 0x3B2),
    (0x3F5, 0x3B5), (0x3D1, 0x3B8), (0x3F0, 0x3BA), (0x3D6, 0x3C0), (0x3F1, 0x3C1),
    (0x3C2, 0x3C3), (0x3A3, 0x3C3), (0x3D5, 0x3C6), (0x1FE3, 0x3B0), (0x1C80, 0x432),
    (0x1C81, 0x434), (0x1C82, 0x43E), (0x1C83, 0x441), (0x1C84, 0x442), (0x1C85, 0x442),
    (0x1C86, 0x44A), (0x1C87, 0x463), (0x1C88, 0xA64B), (0x1E9B, 0x1E61), (0xFB06, 0xFB05)]

def foldChar (c : Char) : Char :=
  let low := Casing.lowerBy Casing.rows c
  match otherForms.find? fun form => form.1 == low.toNat with
  | some form => Char.ofNat form.2
  | none => low

/-- The code point of which a row makes `n`, if there is one. -/
def Casing.Row.source? (row : Casing.Row) (n : Nat) : Option Nat :=
  let source := row.first + (n - row.target)
  if row.target ≤ n && row.holds source then some source else none

/-- All characters that fold to the same one as `c`, and `c` among them. -/
def caseVariants (c : Char) : List Char :=
  let folded := (foldChar c).toNat
  let lows := folded :: (otherForms.filter fun form => form.2 == folded).map (·.1)
  let capitals := lows.flatMap fun low => Casing.rows.filterMap (·.source? low)
  (lows ++ capitals).map Char.ofNat

def asciiVariants (c : Char) : List Char :=
  if c.toNat < 128 then [c, c.toLower, c.toUpper] else [c]

end EstateSearch.Text
