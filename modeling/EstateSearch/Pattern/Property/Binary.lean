import EstateSearch.Pattern.CharSet
import EstateSearch.Text.Property.Table

/-!
# Properties that are true or false of a character

The properties with a table of their own, and those that follow from categories, from other
properties or from the case mappings.
-/

set_option autoImplicit false

namespace EstateSearch.Pattern

open Text

/-! ### Properties from tables -/

def tabledSet? (name : String) : Option CharSet :=
  (NamedSet.find? Property.table name).map (.ranges ·.ranges)

/-- The set of a property that is known to have a table. -/
def tabledSet (name : String) : CharSet := (tabledSet? name).getD .nothing

/-! ### Identifiers -/

def letters : CharSet := .categories [.Lu, .Ll, .Lt, .Lm, .Lo, .Nl]

def identifierStart : CharSet :=
  .difference
    (.union letters (.ranges [(0x1885, 0x1886), (0x2118, 0x2118), (0x212E, 0x212E),
      (0x309B, 0x309C)]))
    (.ranges [(0x2E2F, 0x2E2F)])

def identifierPart : CharSet :=
  .unionOf [identifierStart, .categories [.Mn, .Mc, .Nd, .Pc],
    .ranges [(0xB7, 0xB7), (0x387, 0x387), (0x1369, 0x1371), (0x19DA, 0x19DA), (0x200C, 0x200D),
      (0x30FB, 0x30FB), (0xFF65, 0xFF65)]]

/-- Characters of identifiers that are lost when identifiers are brought to a normal form. -/
def unstableParts : List (Nat × Nat) :=
  [(0x37A, 0x37A), (0x309B, 0x309C), (0xFC5E, 0xFC63), (0xFDFA, 0xFDFB), (0xFE70, 0xFE70),
    (0xFE72, 0xFE72), (0xFE74, 0xFE74), (0xFE76, 0xFE76), (0xFE78, 0xFE78), (0xFE7A, 0xFE7A),
    (0xFE7C, 0xFE7C), (0xFE7E, 0xFE7E)]

/-! ### Graphemes -/

def graphemeExtend : CharSet :=
  .union (.categories [.Mn, .Me]) (.ranges otherExtenders)

/-- The characters that start a grapheme: graphic ones that do not extend another. -/
def graphemeBase : CharSet :=
  .complement (.union graphemeExtend (.categories [.Cc, .Cf, .Cs, .Co, .Cn, .Zl, .Zp]))

/-! ### Letter case -/

def lowercaseSet : CharSet :=
  .union (.categories [.Ll])
    (.ranges [(0xAA, 0xAA), (0xBA, 0xBA), (0x2B0, 0x2B8), (0x2C0, 0x2C1), (0x2E0, 0x2E4),
      (0x345, 0x345), (0x37A, 0x37A), (0x10FC, 0x10FC), (0x1D2C, 0x1D6A), (0x1D78, 0x1D78),
      (0x1D9B, 0x1DBF), (0x2071, 0x2071), (0x207F, 0x207F), (0x2090, 0x209C), (0x2170, 0x217F),
      (0x24D0, 0x24E9), (0x2C7C, 0x2C7D), (0xA69C, 0xA69D), (0xA770, 0xA770), (0xA7F2, 0xA7F4),
      (0xA7F8, 0xA7F9), (0xAB5C, 0xAB5F), (0xAB69, 0xAB69), (0x10780, 0x10780), (0x10783, 0x10785),
      (0x10787, 0x107B0), (0x107B2, 0x107BA), (0x1E030, 0x1E06D)])

def uppercaseSet : CharSet :=
  .union (.categories [.Lu])
    (.ranges [(0x2160, 0x216F), (0x24B6, 0x24CF), (0x1F130, 0x1F149), (0x1F150, 0x1F169),
      (0x1F170, 0x1F189)])

def casedSet : CharSet := .unionOf [lowercaseSet, uppercaseSet, .categories [.Lt]]

/-- The characters that are passed over when the end of a word is looked for. -/
def caseIgnorableSet : CharSet :=
  .union (.categories [.Mn, .Me, .Cf, .Lm, .Sk])
    (.ranges [(0x27, 0x27), (0x2E, 0x2E), (0x3A, 0x3A), (0xB7, 0xB7), (0x387, 0x387),
      (0x55F, 0x55F), (0x5F4, 0x5F4), (0x2018, 0x2019), (0x2024, 0x2024), (0x2027, 0x2027),
      (0xFE13, 0xFE13), (0xFE52, 0xFE52), (0xFE55, 0xFE55), (0xFF07, 0xFF07), (0xFF0E, 0xFF0E),
      (0xFF1A, 0xFF1A)])

def sourcesOf (row : Casing.Row) : List Nat :=
  (List.range ((row.last - row.first) / row.stride + 1)).map fun i => row.first + i * row.stride

def pointSet (points : List Nat) : CharSet := .ranges (points.map fun n => (n, n))

def changedByLowering : CharSet :=
  pointSet ([0x130, 0x3A3] ++ Casing.rows.flatMap sourcesOf)

/-- The characters that have another uppercase: the lowercase of a letter, other forms of lowercase
letters, and those whose uppercase is several characters. -/
def changedByRaising : CharSet :=
  .union
    (pointSet (0x3C3 :: Casing.rows.flatMap fun row => (sourcesOf row).map row.lower))
    (.ranges [(0xB5, 0xB5), (0x131, 0x131), (0x149, 0x149), (0x17F, 0x17F), (0x1C5, 0x1C5),
      (0x1C8, 0x1C8), (0x1CB, 0x1CB), (0x1F0, 0x1F0), (0x1F2, 0x1F2), (0x345, 0x345),
      (0x390, 0x390), (0x3B0, 0x3B0), (0x3C2, 0x3C2), (0x3D0, 0x3D1), (0x3D5, 0x3D6),
      (0x3F0, 0x3F1), (0x3F5, 0x3F5), (0x587, 0x587), (0x1C80, 0x1C88), (0x1E96, 0x1E9B),
      (0x1F50, 0x1F50), (0x1F52, 0x1F52), (0x1F54, 0x1F54), (0x1F56, 0x1F56), (0x1F88, 0x1F8F),
      (0x1F98, 0x1F9F), (0x1FA8, 0x1FAF), (0x1FB2, 0x1FB2), (0x1FB4, 0x1FB4), (0x1FB6, 0x1FB7),
      (0x1FBC, 0x1FBC), (0x1FBE, 0x1FBE), (0x1FC2, 0x1FC2), (0x1FC4, 0x1FC4), (0x1FC6, 0x1FC7),
      (0x1FCC, 0x1FCC), (0x1FD2, 0x1FD3), (0x1FD6, 0x1FD7), (0x1FE2, 0x1FE4), (0x1FE6, 0x1FE7),
      (0x1FF2, 0x1FF2), (0x1FF4, 0x1FF4), (0x1FF6, 0x1FF7), (0x1FFC, 0x1FFC), (0xFB00, 0xFB06),
      (0xFB13, 0xFB17)])

/-- The characters that have another titlecase. Most are those with another uppercase; titlecase
letters are not, nor are the Georgian ones. -/
def changedByTitling : CharSet :=
  .union (.ranges [(0x1C4, 0x1C4), (0x1C7, 0x1C7), (0x1CA, 0x1CA), (0x1F1, 0x1F1)])
    (.difference changedByRaising
      (.union (.categories [.Lt]) (.ranges [(0x10D0, 0x10FA), (0x10FD, 0x10FF)])))

/-- The characters that another one stands for when case does not count. Most are those with another
lowercase; Cherokee is folded the other way. -/
def changedByFolding : CharSet :=
  .union
    (.ranges [(0xB5, 0xB5), (0xDF, 0xDF), (0x149, 0x149), (0x17F, 0x17F), (0x345, 0x345),
      (0x3C2, 0x3C2), (0x3D0, 0x3D1), (0x3D5, 0x3D6), (0x3F0, 0x3F1), (0x3F5, 0x3F5),
      (0x587, 0x587), (0x13F8, 0x13FD), (0x1C80, 0x1C88), (0x1E9A, 0x1E9B), (0x1F80, 0x1F87),
      (0x1F90, 0x1F97), (0x1FA0, 0x1FA7), (0x1FB2, 0x1FB4), (0x1FB7, 0x1FB7), (0x1FC2, 0x1FC4),
      (0x1FC7, 0x1FC7), (0x1FF2, 0x1FF4), (0x1FF7, 0x1FF7), (0xAB70, 0xABBF), (0xFB00, 0xFB06),
      (0xFB13, 0xFB17)])
    (.difference changedByLowering (.range 0x13A0 0x13F5))

/-! ### All of them by name -/

def propertySet? (name : String) : Option CharSet :=
  match name with
  | "lowercase" | "lower" => some lowercaseSet
  | "uppercase" | "upper" => some uppercaseSet
  | "otherlowercase" | "olower" => some (.difference lowercaseSet (.categories [.Ll]))
  | "otheruppercase" | "oupper" => some (.difference uppercaseSet (.categories [.Lu]))
  | "otheralphabetic" | "oalpha" => some (.difference (tabledSet "alphabetic") letters)
  | "othermath" | "omath" => some (.difference (tabledSet "math") (.categories [.Sm]))
  | "whitespace" | "wspace" | "space" => some .blank
  | "cased" => some casedSet
  | "caseignorable" | "ci" => some caseIgnorableSet
  | "changeswhenlowercased" | "cwl" => some changedByLowering
  | "changeswhenuppercased" | "cwu" => some changedByRaising
  | "changeswhentitlecased" | "cwt" => some changedByTitling
  | "changeswhencasefolded" | "cwcf" => some changedByFolding
  | "changeswhencasemapped" | "cwcm" =>
    some (.unionOf [changedByLowering, changedByRaising, changedByTitling])
  | "idstart" | "ids" => some identifierStart
  | "idcontinue" | "idc" => some identifierPart
  | "xidstart" | "xids" =>
    some (.difference identifierStart
      (.ranges (unstableParts ++ [(0xE33, 0xE33), (0xEB3, 0xEB3), (0xFF9E, 0xFF9F)])))
  | "xidcontinue" | "xidc" => some (.difference identifierPart (.ranges unstableParts))
  | "graphemeextend" | "grext" => some graphemeExtend
  | "othergraphemeextend" | "ogrext" => some (.ranges otherExtenders)
  | "graphemebase" | "grbase" => some graphemeBase
  | name => tabledSet? name

end EstateSearch.Pattern
