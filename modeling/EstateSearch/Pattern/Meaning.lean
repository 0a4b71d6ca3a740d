import EstateSearch.Pattern.Property

/-!
# What a pattern means

The tree of a pattern becomes an expression by applying the flags and looking up the names of
properties. It has none if a name is unknown, or if with Unicode turned off it asks for characters
outside ASCII by their bytes.
-/

set_option autoImplicit false

namespace EstateSearch.Pattern

/-- The flags in force at some place of a pattern. -/
structure Flags where
  ignoreCase : Bool
  multiLine : Bool
  dotAll : Bool
  swapGreed : Bool
  unicode : Bool
  carriageReturn : Bool
  deriving DecidableEq, Repr

namespace Flags

def initial : Flags := ⟨false, false, false, false, true, false⟩

/-- The flags after one change. Whether blanks count has been settled by the reader. -/
def set (flags : Flags) : Flag × Bool → Flags
  | (.ignoreCase, on) => { flags with ignoreCase := on }
  | (.multiLine, on) => { flags with multiLine := on }
  | (.dotAll, on) => { flags with dotAll := on }
  | (.unicode, on) => { flags with unicode := on }
  | (.carriageReturn, on) => { flags with carriageReturn := on }
  | (.swapGreed, on) => { flags with swapGreed := on }
  | (.verbose, _) => flags

def change (flags : Flags) (changes : FlagChanges) : Flags := changes.foldl set flags

end Flags

/-- A set with its case variants, where the flags ask for them. -/
def foldedFor (flags : Flags) (set : CharSet) : CharSet :=
  if flags.ignoreCase then (if flags.unicode then .folded set else .foldedAscii set) else set

/-- The complement of a set where it is negated. Without Unicode the complement would hold bytes
that are no characters, so there is none. -/
def complementFor? (flags : Flags) (negated : Bool) (set : CharSet) : Option CharSet :=
  if negated then (if flags.unicode then some (.complement set) else none) else some set

/-- The character that a literal stands for. Without Unicode a byte beyond ASCII is no character. -/
def literalChar? (flags : Flags) (l : Literal) : Option Char :=
  if !flags.unicode && l.isByte && 0x7F < l.char.toNat then none else some l.char

def memberChar? (flags : Flags) (l : Literal) : Option Char :=
  if !flags.unicode && 0x7F < l.char.toNat then none else some l.char

def AsciiClass.set : AsciiClass → CharSet
  | alnum => .unionOf [.between '0' '9', .between 'A' 'Z', .between 'a' 'z']
  | alpha => .union (.between 'A' 'Z') (.between 'a' 'z')
  | ascii => .range 0 0x7F
  | blank => .union (.single '\t') (.single ' ')
  | cntrl => .union (.range 0 0x1F) (.range 0x7F 0x7F)
  | digit => .between '0' '9'
  | graph => .between '!' '~'
  | lower => .between 'a' 'z'
  | print => .between ' ' '~'
  | punct => .unionOf [.between '!' '/', .between ':' '@', .between '[' '\x60', .between '\x7b' '~']
  | space => CharSet.asciiBlank
  | upper => .between 'A' 'Z'
  | word => CharSet.asciiWord
  | xdigit => .unionOf [.between '0' '9', .between 'A' 'F', .between 'a' 'f']

def Shorthand.set (unicode : Bool) : Shorthand → CharSet
  | digit => if unicode then CharSet.digit else .between '0' '9'
  | blank => if unicode then .blank else CharSet.asciiBlank
  | word => if unicode then CharSet.word else CharSet.asciiWord

/-- The set of a named property, which there is with Unicode only. -/
def propertyFor? (flags : Flags) (negated : Bool) (name : PropertyName) : Option CharSet :=
  if flags.unicode then do
    let set ← name.set?
    complementFor? flags negated (foldedFor flags set)
  else none

mutual

def SetTree.meaning? (flags : Flags) : SetTree → Option CharSet
  | .literal l => (memberChar? flags l).map .single
  | .range a b => do
    let low ← memberChar? flags a
    let high ← memberChar? flags b
    return .between low high
  | .ascii negated name => complementFor? flags negated (foldedFor flags name.set)
  | .shorthand negated name => complementFor? flags negated (name.set flags.unicode)
  | .property negated name => propertyFor? flags negated name
  | .bracket negated set => do
    let inside ← SetTree.meaning? flags set
    complementFor? flags negated (foldedFor flags inside)
  | .union members => do
    let sets ← SetTree.meanings? flags members
    return .unionOf sets
  | .intersection a b => do
    let a ← SetTree.meaning? flags a
    let b ← SetTree.meaning? flags b
    return .intersection (foldedFor flags a) (foldedFor flags b)
  | .difference a b => do
    let a ← SetTree.meaning? flags a
    let b ← SetTree.meaning? flags b
    return .difference (foldedFor flags a) (foldedFor flags b)
  | .symmetricDifference a b => do
    let a ← SetTree.meaning? flags a
    let b ← SetTree.meaning? flags b
    return .symmetricDifference (foldedFor flags a) (foldedFor flags b)

def SetTree.meanings? (flags : Flags) : List SetTree → Option (List CharSet)
  | [] => some []
  | member :: others => do
    let set ← SetTree.meaning? flags member
    let sets ← SetTree.meanings? flags others
    return set :: sets

end

/-- What the dot matches. Without Unicode it would match bytes that are no characters. -/
def dotSet? (flags : Flags) : Option CharSet :=
  if !flags.unicode then none
  else if flags.dotAll then some CharSet.everything
  else if flags.carriageReturn then some (.complement (.union (.single '\n') (.single '\r')))
  else some (.complement (.single '\n'))

def AssertionSign.meaning (flags : Flags) : AssertionSign → Assertion
  | caret =>
    if flags.multiLine then (if flags.carriageReturn then .lineStartReturn else .lineStart)
    else .textStart
  | dollar =>
    if flags.multiLine then (if flags.carriageReturn then .lineEndReturn else .lineEnd)
    else .textEnd
  | textStart => .textStart
  | textEnd => .textEnd
  | boundary => .boundary (!flags.unicode)
  | noBoundary => .noBoundary (!flags.unicode)
  | wordStart => .wordStart (!flags.unicode)
  | wordEnd => .wordEnd (!flags.unicode)
  | wordStartHalf => .wordStartHalf (!flags.unicode)
  | wordEndHalf => .wordEndHalf (!flags.unicode)

mutual

/-- The expression of a tree, and the flags in force after it in its group. -/
def Tree.meaning? (flags : Flags) : Tree → Option (Expression × Flags)
  | .empty => some (.empty, flags)
  | .flags changes => some (.empty, flags.change changes)
  | .literal l => do
    let c ← literalChar? flags l
    return (.one (foldedFor flags (.single c)), flags)
  | .dot => do
    let set ← dotSet? flags
    return (.one set, flags)
  | .assertion sign => some (.look (sign.meaning flags), flags)
  | .shorthand negated name => do
    let set ← complementFor? flags negated (name.set flags.unicode)
    return (.one set, flags)
  | .property negated name => do
    let set ← propertyFor? flags negated name
    return (.one set, flags)
  | .bracket negated inside => do
    let set ← SetTree.meaning? flags (.bracket negated inside)
    return (.one set, flags)
  | .repetition least most greedy tree => do
    let (e, flags) ← Tree.meaning? flags tree
    return (.times least most (greedy != flags.swapGreed) e, flags)
  | .group captures changes tree => do
    let (e, _) ← Tree.meaning? (flags.change changes) tree
    return (.group captures e, flags)
  | .alternatives trees => Tree.meaningOfAny? flags trees
  | .sequence trees => Tree.meaningOfAll? flags trees

/-- The expression of trees that follow one another. -/
def Tree.meaningOfAll? (flags : Flags) : List Tree → Option (Expression × Flags)
  | [] => some (.empty, flags)
  | tree :: others => do
    let (a, flags) ← Tree.meaning? flags tree
    let (b, flags) ← Tree.meaningOfAll? flags others
    return (.sequence a b, flags)

/-- The expression of trees of which one has to match; flags that one of them changes stay changed
for the next. -/
def Tree.meaningOfAny? (flags : Flags) : List Tree → Option (Expression × Flags)
  | [] => some (.one .nothing, flags)
  | [tree] => Tree.meaning? flags tree
  | tree :: others => do
    let (a, flags) ← Tree.meaning? flags tree
    let (b, flags) ← Tree.meaningOfAny? flags others
    return (.either a b, flags)

end

end EstateSearch.Pattern
