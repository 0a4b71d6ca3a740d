import EstateSearch.Pattern.Property.Binary

/-!
# Properties for the bounds of graphemes, words and sentences

How a text is cut into graphemes, words and sentences hangs on three properties of its characters.
The larger of their values follow from other properties; the smaller ones are listed.
-/

set_option autoImplicit false

namespace EstateSearch.Pattern

open Text

def emojiModifier : CharSet := .range 0x1F3FB 0x1F3FF

def regionalIndicator : CharSet := .range 0x1F1E6 0x1F1FF

/-! ### Graphemes -/

def syllableRun : Nat := 28

/-- The first of each run of Korean syllables: those without a third letter. -/
def openSyllables : List Nat := (List.range 399).map fun i => 0xAC00 + i * syllableRun

/-- The spacing marks, and two vowel signs, that go with the character before them. -/
def spacingMark : CharSet :=
  .difference
    (.union (.categories [.Mc]) (.ranges [(0xE33, 0xE33), (0xEB3, 0xEB3)]))
    (.union graphemeExtend
      (.ranges [(0x102B, 0x102C), (0x1038, 0x1038), (0x1062, 0x1064), (0x1067, 0x106D),
        (0x1083, 0x1083), (0x1087, 0x108C), (0x108F, 0x108F), (0x109A, 0x109C), (0x1A61, 0x1A61),
        (0x1A63, 0x1A64), (0xAA7B, 0xAA7B), (0xAA7D, 0xAA7D), (0x11720, 0x11721)]))

def graphemeBreakSet? (value : String) : Option CharSet :=
  match value with
  | "cr" => some (.single '\r')
  | "lf" => some (.single '\n')
  | "control" | "cn" =>
    some (.ranges [(0x0, 0x9), (0xB, 0xC), (0xE, 0x1F), (0x7F, 0x9F), (0xAD, 0xAD), (0x61C, 0x61C),
      (0x180E, 0x180E), (0x200B, 0x200B), (0x200E, 0x200F), (0x2028, 0x202E), (0x2060, 0x206F),
      (0xFEFF, 0xFEFF), (0xFFF0, 0xFFFB), (0x13430, 0x1343F), (0x1BCA0, 0x1BCA3),
      (0x1D173, 0x1D17A), (0xE0000, 0xE001F), (0xE0080, 0xE00FF), (0xE01F0, 0xE0FFF)])
  | "extend" | "ex" => some (.union graphemeExtend emojiModifier)
  | "l" => some (.ranges [(0x1100, 0x115F), (0xA960, 0xA97C)])
  | "v" =>
    some (.ranges [(0x1160, 0x11A7), (0xD7B0, 0xD7C6), (0x16D63, 0x16D63), (0x16D67, 0x16D6A)])
  | "t" => some (.ranges [(0x11A8, 0x11FF), (0xD7CB, 0xD7FB)])
  | "lv" => some (pointSet openSyllables)
  | "lvt" => some (.ranges (openSyllables.map fun n => (n + 1, n + syllableRun - 1)))
  | "prepend" | "pp" =>
    some (.ranges [(0x600, 0x605), (0x6DD, 0x6DD), (0x70F, 0x70F), (0x890, 0x891), (0x8E2, 0x8E2),
      (0xD4E, 0xD4E), (0x110BD, 0x110BD), (0x110CD, 0x110CD), (0x111C2, 0x111C3),
      (0x113D1, 0x113D1), (0x1193F, 0x1193F), (0x11941, 0x11941), (0x11A3A, 0x11A3A),
      (0x11A84, 0x11A89), (0x11D46, 0x11D46), (0x11F02, 0x11F02)])
  | "regionalindicator" | "ri" => some regionalIndicator
  | "spacingmark" | "sm" => some spacingMark
  | "zwj" => some (.range 0x200D 0x200D)
  | _ => none

/-! ### Words -/

def wordExtend : CharSet := .unionOf [graphemeExtend, .categories [.Mc], emojiModifier]

def hebrewLetter : CharSet :=
  .ranges [(0x5D0, 0x5EA), (0x5EF, 0x5F2), (0xFB1D, 0xFB1D), (0xFB1F, 0xFB28), (0xFB2A, 0xFB36),
    (0xFB38, 0xFB3C), (0xFB3E, 0xFB3E), (0xFB40, 0xFB41), (0xFB43, 0xFB44), (0xFB46, 0xFB4F)]

def katakana : CharSet :=
  .ranges [(0x3031, 0x3035), (0x309B, 0x309C), (0x30A0, 0x30FA), (0x30FC, 0x30FF),
    (0x31F0, 0x31FF), (0x32D0, 0x32FE), (0x3300, 0x3357), (0xFF66, 0xFF9D), (0x1AFF0, 0x1AFF3),
    (0x1AFF5, 0x1AFFB), (0x1AFFD, 0x1AFFE), (0x1B000, 0x1B000), (0x1B120, 0x1B122),
    (0x1B155, 0x1B155), (0x1B164, 0x1B167)]

/-- The letters of scripts that are written without gaps between words: Thai, Lao, Burmese, Khmer
and their like, and Hiragana. -/
def gaplessLetter : CharSet :=
  .ranges [(0xE01, 0xE30), (0xE32, 0xE33), (0xE40, 0xE46), (0xE81, 0xE82), (0xE84, 0xE84),
    (0xE86, 0xE8A), (0xE8C, 0xEA3), (0xEA5, 0xEA5), (0xEA7, 0xEB0), (0xEB2, 0xEB3), (0xEBD, 0xEBD),
    (0xEC0, 0xEC4), (0xEC6, 0xEC6), (0xEDC, 0xEDF), (0x1000, 0x102A), (0x103F, 0x103F),
    (0x1050, 0x1055), (0x105A, 0x105D), (0x1061, 0x1061), (0x1065, 0x1066), (0x106E, 0x1070),
    (0x1075, 0x1081), (0x108E, 0x108E), (0x1780, 0x17B3), (0x17D7, 0x17D7), (0x17DC, 0x17DC),
    (0x1950, 0x196D), (0x1970, 0x1974), (0x1980, 0x19AB), (0x19B0, 0x19C9), (0x1A20, 0x1A54),
    (0x1AA7, 0x1AA7), (0x3041, 0x3096), (0x309D, 0x309F), (0xA9E0, 0xA9E4), (0xA9E6, 0xA9EF),
    (0xA9FA, 0xA9FE), (0xAA60, 0xAA76), (0xAA7A, 0xAA7A), (0xAA7E, 0xAAAF), (0xAAB1, 0xAAB1),
    (0xAAB5, 0xAAB6), (0xAAB9, 0xAABD), (0xAAC0, 0xAAC0), (0xAAC2, 0xAAC2), (0xAADB, 0xAADD),
    (0x11700, 0x1171A), (0x11740, 0x11746), (0x1B001, 0x1B11F), (0x1B132, 0x1B132),
    (0x1B150, 0x1B152)]

/-- The letters of scripts that are written with gaps between words, and signs used like them. -/
def spacedLetter : CharSet :=
  .union
    (.difference (tabledSet "alphabetic")
      (.unionOf [tabledSet "ideographic", wordExtend, katakana, hebrewLetter, gaplessLetter]))
    (.ranges [(0x2C2, 0x2C5), (0x2D2, 0x2D7), (0x2DE, 0x2DF), (0x2E5, 0x2EB), (0x2ED, 0x2ED),
      (0x2EF, 0x2FF), (0x55A, 0x55C), (0x55E, 0x55E), (0x58A, 0x58A), (0x5F3, 0x5F3),
      (0x70F, 0x70F), (0xA708, 0xA716), (0xA720, 0xA721), (0xA789, 0xA78A), (0xAB5B, 0xAB5B)])

/-- The digits, and the signs that stand in numbers. -/
def wordNumeric : CharSet :=
  .union (.categories [.Nd])
    (.ranges [(0x600, 0x605), (0x66B, 0x66B), (0x6DD, 0x6DD), (0x890, 0x891), (0x8E2, 0x8E2),
      (0x19DA, 0x19DA), (0x110BD, 0x110BD), (0x110CD, 0x110CD)])

def wordFormat : CharSet :=
  .ranges [(0xAD, 0xAD), (0x61C, 0x61C), (0x180E, 0x180E), (0x200E, 0x200F), (0x202A, 0x202E),
    (0x2060, 0x2064), (0x2066, 0x206F), (0xFEFF, 0xFEFF), (0xFFF9, 0xFFFB), (0x13430, 0x1343F),
    (0x1BCA0, 0x1BCA3), (0x1D173, 0x1D17A), (0xE0001, 0xE0001)]

def wordBreakSet? (value : String) : Option CharSet :=
  match value with
  | "cr" => some (.single '\r')
  | "lf" => some (.single '\n')
  | "newline" | "nl" => some (.ranges [(0xB, 0xC), (0x85, 0x85), (0x2028, 0x2029)])
  | "extend" => some wordExtend
  | "zwj" => some (.range 0x200D 0x200D)
  | "regionalindicator" | "ri" => some regionalIndicator
  | "format" | "fo" => some wordFormat
  | "katakana" | "ka" => some katakana
  | "hebrewletter" | "hl" => some hebrewLetter
  | "aletter" | "le" => some spacedLetter
  | "singlequote" | "sq" => some (.single '\'')
  | "doublequote" | "dq" => some (.single '"')
  | "midnumlet" | "mb" =>
    some (.ranges [(0x2E, 0x2E), (0x2018, 0x2019), (0x2024, 0x2024), (0xFE52, 0xFE52),
      (0xFF07, 0xFF07), (0xFF0E, 0xFF0E)])
  | "midletter" | "ml" =>
    some (.ranges [(0x3A, 0x3A), (0xB7, 0xB7), (0x387, 0x387), (0x55F, 0x55F), (0x5F4, 0x5F4),
      (0x2027, 0x2027), (0xFE13, 0xFE13), (0xFE55, 0xFE55), (0xFF1A, 0xFF1A)])
  | "midnum" | "mn" =>
    some (.ranges [(0x2C, 0x2C), (0x3B, 0x3B), (0x37E, 0x37E), (0x589, 0x589), (0x60C, 0x60D),
      (0x66C, 0x66C), (0x7F8, 0x7F8), (0x2044, 0x2044), (0xFE50, 0xFE50), (0xFE54, 0xFE54),
      (0xFF0C, 0xFF0C), (0xFF1B, 0xFF1B)])
  | "numeric" | "nu" => some wordNumeric
  | "extendnumlet" | "ex" =>
    some (.ranges [(0x5F, 0x5F), (0x202F, 0x202F), (0x203F, 0x2040), (0x2054, 0x2054),
      (0xFE33, 0xFE34), (0xFE4D, 0xFE4F), (0xFF3F, 0xFF3F)])
  | "wsegspace" =>
    some (.ranges [(0x20, 0x20), (0x1680, 0x1680), (0x2000, 0x2006), (0x2008, 0x200A),
      (0x205F, 0x205F), (0x3000, 0x3000)])
  | _ => none

/-! ### Sentences -/

def sentenceExtend : CharSet :=
  .unionOf [graphemeExtend, .categories [.Mc], .range 0x200D 0x200D]

/-- The lowercase letters of a sentence; the Georgian ones do not count as such. -/
def sentenceLower : CharSet :=
  .difference lowercaseSet (.union sentenceExtend (.ranges [(0x10D0, 0x10FA), (0x10FD, 0x10FF)]))

/-- The letters that may begin a sentence; the Georgian capitals do not. -/
def sentenceUpper : CharSet :=
  .difference (.union uppercaseSet (.categories [.Lt]))
    (.ranges [(0x1C90, 0x1CBA), (0x1CBD, 0x1CBF)])

/-- The full stops, which do not always end a sentence. -/
def fullStop : CharSet :=
  .ranges [(0x2E, 0x2E), (0x2024, 0x2024), (0xFE52, 0xFE52), (0xFF0E, 0xFF0E)]

def sentenceBreakSet? (value : String) : Option CharSet :=
  match value with
  | "cr" => some (.single '\r')
  | "lf" => some (.single '\n')
  | "sep" | "se" => some (.ranges [(0x85, 0x85), (0x2028, 0x2029)])
  | "extend" | "ex" => some sentenceExtend
  | "format" | "fo" => some (.unionOf [wordFormat, .range 0x70F 0x70F, .range 0x200B 0x200B])
  | "sp" =>
    some (.difference .blank
      (.ranges [(0xA, 0xA), (0xD, 0xD), (0x85, 0x85), (0x2028, 0x2029)]))
  | "lower" | "lo" => some sentenceLower
  | "upper" | "up" => some sentenceUpper
  | "oletter" | "le" =>
    some (.difference (.union (tabledSet "alphabetic") (.range 0x5F3 0x5F3))
      (.unionOf [sentenceLower, sentenceUpper, sentenceExtend]))
  | "numeric" | "nu" => some (.union wordNumeric (.range 0x66C 0x66C))
  | "aterm" | "at" => some fullStop
  | "sterm" | "st" => some (.difference (tabledSet "sentenceterminal") fullStop)
  | "close" | "cl" =>
    some (.union
      (.difference (.union (.categories [.Ps, .Pe, .Pi, .Pf]) (tabledSet "quotationmark"))
        (.ranges [(0xFF02, 0xFF02), (0xFF07, 0xFF07)]))
      (.ranges [(0x275B, 0x2760), (0x2E00, 0x2E01), (0x2E06, 0x2E08), (0x2E0B, 0x2E0B),
        (0x1F676, 0x1F678)]))
  | "scontinue" | "sc" =>
    some (.ranges [(0x2C, 0x2D), (0x3A, 0x3B), (0x37E, 0x37E), (0x55D, 0x55D), (0x60C, 0x60D),
      (0x7F8, 0x7F8), (0x1802, 0x1802), (0x1808, 0x1808), (0x2013, 0x2014), (0x3001, 0x3001),
      (0xFE10, 0xFE11), (0xFE13, 0xFE14), (0xFE31, 0xFE32), (0xFE50, 0xFE51), (0xFE54, 0xFE55),
      (0xFE58, 0xFE58), (0xFE63, 0xFE63), (0xFF0C, 0xFF0D), (0xFF1A, 0xFF1B), (0xFF64, 0xFF64)])
  | _ => none

end EstateSearch.Pattern
