import EstateSearch.Text.Category.Revision
import EstateSearch.Text.Property.Table

/-!
# Alphabetic and numeric characters

What the names of groups in patterns are made of. Both classes follow edition 17 of the character
database; the marks that it adds to the alphabetic ones are listed here, and its letters and numbers
are known by their category.
-/

set_option autoImplicit false

namespace EstateSearch.Text

def alphabeticRanges : List (Nat × Nat) :=
  ((NamedSet.find? Property.table "alphabetic").map NamedSet.ranges).getD []

def laterMarks : List (Nat × Nat) :=
  [(0x10EFA, 0x10EFB), (0x11B60, 0x11B67), (0x1E6E3, 0x1E6E3), (0x1E6E6, 0x1E6E6),
    (0x1E6EE, 0x1E6EF), (0x1E6F5, 0x1E6F5)]

/-- Does the character have the property `Alphabetic`? -/
def isAlphabetic (c : Char) : Bool :=
  let category := Category.revised c
  category.major == 'L' || category == .Nl || inRanges alphabeticRanges c.toNat ||
    inRanges laterMarks c.toNat

def isNumeric (c : Char) : Bool := (Category.revised c).major == 'N'

end EstateSearch.Text
