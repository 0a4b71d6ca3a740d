import EstateSearch.Decimal.Digits
import EstateSearch.Pattern.Syntax
import EstateSearch.Text.Alphabetic
import EstateSearch.Text.Blank

/-!
# Reading patterns

Each `take` function reads one construct off the front of a text, and is none where the text breaks
a rule of the syntax. What is left, and the two things that the reading of one construct may change
for what follows, travel in a `Cursor`. The recursive functions count down a number that is at
least the number of characters left.
-/

set_option autoImplicit false

namespace EstateSearch.Pattern

open Text

/-- The text that is left, with the state of the reader. -/
structure Cursor where
  rest : List Char
  /-- do blanks and comments not count? -/
  verbose : Bool
  /-- the names of the groups so far -/
  names : List (List Char)
  deriving Repr

def dropLine : List Char → List Char
  | [] => []
  | c :: rest => if c = '\n' then rest else dropLine rest

/-- The text without the blanks and comments at its start; `bound` is at least its length. -/
def dropComments : Nat → List Char → List Char
  | 0, cs => cs
  | _, [] => []
  | bound + 1, c :: rest =>
    if isBlank c then dropComments bound rest
    else if c = '#' then dropComments bound (dropLine rest)
    else c :: rest

namespace Cursor

def goTo (cursor : Cursor) (rest : List Char) : Cursor := { cursor with rest }

def spaced (cursor : Cursor) (cs : List Char) : List Char :=
  if cursor.verbose then dropComments cs.length cs else cs

end Cursor

/-! ### Characters -/

def isMeta (c : Char) : Bool :=
  "\\.+*?()|[]\x7b\x7d^$#&-~".toList.contains c

def isEscapable (c : Char) : Bool :=
  isMeta c || (c.toNat < 128 && !c.isAlphanum && c != '<' && c != '>')

def hexValue? (c : Char) : Option Nat :=
  if '0' ≤ c && c ≤ '9' then some (c.toNat - '0'.toNat)
  else if 'a' ≤ c && c ≤ 'f' then some (c.toNat - 'a'.toNat + 10)
  else if 'A' ≤ c && c ≤ 'F' then some (c.toNat - 'A'.toNat + 10)
  else none

def hexNumber (ds : List Nat) : Nat := ds.foldl (fun n d => n * 16 + d) 0

def charOf? (n : Nat) : Option Char :=
  if n < 0xD800 || (0xDFFF < n && n < 0x110000) then some (Char.ofNat n) else none

/-- Reads `count` hexadecimal digits, passing over what does not count between them. -/
def takeHexDigits? (cursor : Cursor) : Nat → List Char → Option (List Nat × List Char)
  | 0, cs => some ([], cs)
  | _, [] => none
  | count + 1, c :: rest => do
    let d ← hexValue? c
    let (ds, after) ← takeHexDigits? cursor count (cursor.spaced rest)
    return (d :: ds, after)

/-- Reads hexadecimal digits up to a closing brace; `bound` is at least the length of the text. -/
def takeBracedHex? (cursor : Cursor) : Nat → List Char → Option (List Nat × List Char)
  | bound + 1, c :: rest =>
    if c = '}' then some ([], cursor.spaced rest)
    else do
      let d ← hexValue? c
      let (ds, after) ← takeBracedHex? cursor bound (cursor.spaced rest)
      return (d :: ds, after)
  | _, _ => none

/-- Reads a character written by its code point, after the letter that announces `digits` digits. -/
def takeHex? (cursor : Cursor) (digits : Nat) (cs : List Char) : Option (Literal × List Char) :=
  match cursor.spaced cs with
  | '{' :: rest => do
    let (ds, after) ← takeBracedHex? cursor rest.length (cursor.spaced rest)
    if ds.isEmpty then none else
    let c ← charOf? (hexNumber ds)
    return (⟨c, false⟩, after)
  | cs => do
    let (ds, after) ← takeHexDigits? cursor digits cs
    let c ← charOf? (hexNumber ds)
    return (⟨c, digits == 2⟩, after)

/-! ### Names of properties -/

/-- Reads up to a closing brace, leaving out what does not count. -/
def takeBraced? (cursor : Cursor) : Nat → List Char → Option (List Char × List Char)
  | bound + 1, c :: rest =>
    if c = '}' then some ([], rest)
    else do
      let (name, after) ← takeBraced? cursor bound (cursor.spaced rest)
      return (c :: name, after)
  | _, _ => none

def cutAt? (mark : List Char) : List Char → Option (List Char × List Char)
  | [] => none
  | c :: rest =>
    if mark.isPrefixOf (c :: rest) then some ([], (c :: rest).drop mark.length)
    else (cutAt? mark rest).map fun (before, after) => (c :: before, after)

/-- The name in braces; a value of a property comes after `!=`, which turns the class around, or
else after the first colon, or else after the first equality sign. -/
def propertyName (inside : List Char) : Bool × PropertyName :=
  match cutAt? ['!', '='] inside with
  | some (name, value) => (true, .valued name value)
  | none =>
    match cutAt? [':'] inside with
    | some (name, value) => (false, .valued name value)
    | none =>
      match cutAt? ['='] inside with
      | some (name, value) => (false, .valued name value)
      | none => (false, .plain inside)

/-- Reads the name of a property, after the letter that announces it. -/
def takeProperty? (cursor : Cursor) (cs : List Char) :
    Option ((Bool × PropertyName) × List Char) :=
  match cursor.spaced cs with
  | [] => none
  | '{' :: rest => do
    let (inside, after) ← takeBraced? cursor rest.length (cursor.spaced rest)
    return (propertyName inside, after)
  | c :: rest => if c = '\\' then none else some ((false, .plain [c]), cursor.spaced rest)

/-! ### Escapes -/

def isBoundaryChar (c : Char) : Bool :=
  ('A' ≤ c && c ≤ 'Z') || ('a' ≤ c && c ≤ 'z') || c == '-'

/-- Reads the longest run of such characters, leaving out what does not count. -/
def takeBoundaryName (cursor : Cursor) : Nat → List Char → List Char × List Char
  | bound + 1, c :: rest =>
    if isBoundaryChar c then
      let (name, after) := takeBoundaryName cursor bound (cursor.spaced rest)
      (c :: name, after)
    else ([], c :: rest)
  | _, cs => ([], cs)

def boundaryNamed? (name : List Char) : Option AssertionSign :=
  match String.ofList name with
  | "start" => some .wordStart
  | "end" => some .wordEnd
  | "start-half" => some .wordStartHalf
  | "end-half" => some .wordEndHalf
  | _ => none

/-- Reads what may follow the sign of a word boundary: a name in braces. Braces that hold something
else are left, as they can only count a repetition. -/
def takeBoundary? (cursor : Cursor) : List Char → Option (AssertionSign × List Char)
  | '{' :: rest =>
    match cursor.spaced rest with
    | [] => none
    | c :: inside =>
      if isBoundaryChar c then
        match takeBoundaryName cursor (inside.length + 1) (c :: inside) with
        | (name, '}' :: after) => (boundaryNamed? name).map fun sign => (sign, after)
        | _ => none
      else some (.boundary, '{' :: rest)
  | cs => some (.boundary, cs)

def takeEscape? (cursor : Cursor) : List Char → Option (Tree × List Char)
  | [] => none
  | c :: rest =>
    let literal (d : Char) : Option (Tree × List Char) := some (.literal ⟨d, false⟩, rest)
    let hex (digits : Nat) : Option (Tree × List Char) :=
      (takeHex? cursor digits rest).map fun (l, after) => (.literal l, after)
    let property (negated : Bool) : Option (Tree × List Char) :=
      (takeProperty? cursor rest).map fun ((turned, name), after) =>
        (.property (negated != turned) name, after)
    match c with
    | 'x' => hex 2
    | 'u' => hex 4
    | 'U' => hex 8
    | 'p' => property false
    | 'P' => property true
    | 'd' => some (.shorthand false .digit, rest)
    | 'D' => some (.shorthand true .digit, rest)
    | 's' => some (.shorthand false .blank, rest)
    | 'S' => some (.shorthand true .blank, rest)
    | 'w' => some (.shorthand false .word, rest)
    | 'W' => some (.shorthand true .word, rest)
    | 'a' => literal '\x07'
    | 'f' => literal '\x0C'
    | 't' => literal '\t'
    | 'n' => literal '\n'
    | 'r' => literal '\r'
    | 'v' => literal '\x0B'
    | 'A' => some (.assertion .textStart, rest)
    | 'z' => some (.assertion .textEnd, rest)
    | 'b' => (takeBoundary? cursor rest).map fun (sign, after) => (.assertion sign, after)
    | 'B' => some (.assertion .noBoundary, rest)
    | '<' => some (.assertion .wordStart, rest)
    | '>' => some (.assertion .wordEnd, rest)
    | c => if isEscapable c then literal c else none

/-! ### Brackets -/

def asciiClass? (name : List Char) : Option AsciiClass :=
  match String.ofList name with
  | "alnum" => some .alnum
  | "alpha" => some .alpha
  | "ascii" => some .ascii
  | "blank" => some .blank
  | "cntrl" => some .cntrl
  | "digit" => some .digit
  | "graph" => some .graph
  | "lower" => some .lower
  | "print" => some .print
  | "punct" => some .punct
  | "space" => some .space
  | "upper" => some .upper
  | "word" => some .word
  | "xdigit" => some .xdigit
  | _ => none

/-- Reads a class such as `[:alpha:]` or `[:^alpha:]` after its opening bracket, if there is one. -/
def takeAsciiClass? (cs : List Char) : Option (SetTree × List Char) :=
  match cs with
  | ':' :: rest =>
    let (negated, rest) :=
      match rest with
      | '^' :: rest => (true, rest)
      | rest => (false, rest)
    match cutAt? [':'] rest with
    | some (name, ']' :: after) =>
      (asciiClass? name).map fun kind => (.ascii negated kind, after)
    | _ => none
  | _ => none

/-- Reads one item between brackets: an escape or a character. -/
def takeSetItem? (cursor : Cursor) : List Char → Option (Tree × List Char)
  | [] => none
  | '\\' :: rest => takeEscape? cursor rest
  | c :: rest => some (.literal ⟨c, false⟩, rest)

/-- The set of an item that stands alone between brackets; assertions name no set. -/
def setOfItem? : Tree → Option SetTree
  | .literal l => some (.literal l)
  | .shorthand negated name => some (.shorthand negated name)
  | .property negated name => some (.property negated name)
  | _ => none

/-- The range between two items, which must be literals in order. -/
def rangeOfItems? : Tree → Tree → Option SetTree
  | .literal a, .literal b => if a.char ≤ b.char then some (.range a b) else none
  | _, _ => none

/-- The character by which it is decided whether a hyphen before it makes a range. Where blanks do
not count it is the next one that is no blank, and of a comment only the sign is passed over. -/
def afterHyphen (cursor : Cursor) (cs : List Char) : Option Char :=
  if cursor.verbose then
    let found :=
      match cs.dropWhile isBlank with
      | '#' :: rest => (rest.dropWhile isBlank).head?
      | rest => rest.head?
    found <|> cs.head?
  else cs.head?

/-- Reads an item between brackets or a range of two items. A hyphen before a closing bracket or
another hyphen makes no range. -/
def takeSetRange? (cursor : Cursor) (cs : List Char) : Option (SetTree × List Char) := do
  let (first, rest) ← takeSetItem? cursor cs
  match cursor.spaced rest with
  | [] => none
  | '-' :: after =>
    let next := afterHyphen cursor after
    if next == some ']' || next == some '-' then
      let set ← setOfItem? first
      return (set, '-' :: after)
    else
      match cursor.spaced after with
      | [] => none
      | last =>
        let (second, rest) ← takeSetItem? cursor last
        let set ← rangeOfItems? first second
        return (set, rest)
  | rest =>
    let set ← setOfItem? first
    return (set, rest)

/-- Reads hyphens, which stand for themselves at the start of a bracket. -/
def takeHyphens (cursor : Cursor) : Nat → List Char → List SetTree × List Char
  | bound + 1, '-' :: rest =>
    let (members, after) := takeHyphens cursor bound (cursor.spaced rest)
    (.literal ⟨'-', false⟩ :: members, after)
  | _, cs => ([], cs)

/-- What stands at the start of a bracket, after its opening sign: whether it is negated, and the
characters that stand for themselves only there. -/
def takeOpening (cursor : Cursor) (cs : List Char) : Bool × List SetTree × List Char :=
  let (negated, cs) :=
    match cursor.spaced cs with
    | '^' :: rest => (true, cursor.spaced rest)
    | cs => (false, cs)
  match takeHyphens cursor cs.length cs with
  | ([], ']' :: rest) => (negated, [.literal ⟨']', false⟩], cursor.spaced rest)
  | (members, rest) => (negated, members, rest)

/-- The union of the members read so far, the latest first. -/
def unionOfMembers (members : List SetTree) : SetTree :=
  match members with
  | [member] => member
  | members => .union members.reverse

/-- An operation on sets that waits for its second operand. -/
abbrev PendingSet := Option ((SetTree → SetTree → SetTree) × SetTree)

def completeSet (pending : PendingSet) (set : SetTree) : SetTree :=
  match pending with
  | some (operation, first) => operation first set
  | none => set

/-- Reads the inside of a bracket up to its closing sign. `members` are the members of the current
operand, the latest first. The operations have one rank and group to the left. -/
def takeSet? (cursor : Cursor) :
    Nat → PendingSet → List SetTree → List Char → Option (SetTree × List Char)
  | 0, _, _, _ => none
  | bound + 1, pending, members, cs =>
    let operation (make : SetTree → SetTree → SetTree) (rest : List Char) :=
      takeSet? cursor bound (some (make, completeSet pending (unionOfMembers members))) [] rest
    match cursor.spaced cs with
    | [] => none
    | ']' :: rest => some (completeSet pending (unionOfMembers members), rest)
    | '&' :: '&' :: rest => operation .intersection rest
    | '-' :: '-' :: rest => operation .difference rest
    | '~' :: '~' :: rest => operation .symmetricDifference rest
    | '[' :: rest =>
      match takeAsciiClass? rest with
      | some (set, after) => takeSet? cursor bound pending (set :: members) after
      | none => do
        let (negated, first, inside) := takeOpening cursor rest
        let (set, after) ← takeSet? cursor bound none first.reverse inside
        takeSet? cursor bound pending (.bracket negated set :: members) after
    | cs => do
      let (set, after) ← takeSetRange? cursor cs
      takeSet? cursor bound pending (set :: members) after

def takeBracket? (cursor : Cursor) (cs : List Char) : Option (Tree × List Char) := do
  let (negated, first, inside) := takeOpening cursor cs
  let (set, after) ← takeSet? cursor (inside.length + 1) none first.reverse inside
  return (.bracket negated set, after)

/-! ### Repetitions -/

def takeCountDigits (cursor : Cursor) : Nat → List Char → List Decimal.Digit × List Char
  | bound + 1, c :: rest =>
    match Decimal.digit? c with
    | some d =>
      let (ds, after) := takeCountDigits cursor bound (cursor.spaced rest)
      (d :: ds, after)
    | none => ([], c :: rest)
  | _, cs => ([], cs)

/-- The text past blanks, and past comments where those do not count. -/
def dropBlanks (cursor : Cursor) : Nat → List Char → List Char
  | bound + 1, c :: rest =>
    if isBlank c then dropBlanks cursor bound (cursor.spaced rest) else c :: rest
  | _, cs => cs

/-- Reads a number of repetitions with blanks around it; it must fit in 32 bits. -/
def takeCount? (cursor : Cursor) (cs : List Char) : Option (Nat × List Char) :=
  let cs := trimStart cs
  let (ds, rest) := takeCountDigits cursor cs.length cs
  let n := Decimal.valueOf ds
  if ds.isEmpty || UInt32.size ≤ n then none else some (n, dropBlanks cursor rest.length rest)

def takeLazySign : List Char → Bool × List Char
  | '?' :: rest => (false, rest)
  | cs => (true, cs)

/-- The bounds of a repetition, and whether long matches are preferred. -/
abbrev Repeats := Nat × Option Nat × Bool

def closeCount? (cursor : Cursor) (least : Nat) (most : Option Nat) :
    List Char → Option (Repeats × List Char)
  | '}' :: rest =>
    let isOrdered : Bool :=
      match most with
      | some most => least ≤ most
      | none => true
    let (greedy, rest) := takeLazySign (cursor.spaced rest)
    if isOrdered then some ((least, most, greedy), rest) else none
  | _ => none

def takeCounts? (cursor : Cursor) (cs : List Char) : Option (Repeats × List Char) := do
  let (least, rest) ← takeCount? cursor (cursor.spaced cs)
  match rest with
  | ',' :: rest =>
    match cursor.spaced rest with
    | '}' :: rest => closeCount? cursor least none ('}' :: rest)
    | rest =>
      let (most, rest) ← takeCount? cursor rest
      closeCount? cursor least (some most) rest
  | rest => closeCount? cursor least (some least) rest

/-- The members of a sequence, the latest first, with the latest one repeated. There must be one,
and flags cannot be repeated. -/
def repeatLatest? (repeats : Repeats) : List Tree → Option (List Tree)
  | [] => none
  | .flags _ :: _ => none
  | .empty :: _ => none
  | tree :: others =>
    let (least, most, greedy) := repeats
    some (.repetition least most greedy tree :: others)

/-! ### Groups -/

def flag? : Char → Option Flag
  | 'i' => some .ignoreCase
  | 'm' => some .multiLine
  | 's' => some .dotAll
  | 'U' => some .swapGreed
  | 'u' => some .unicode
  | 'R' => some .carriageReturn
  | 'x' => some .verbose
  | _ => none

/-- Reads flags up to a colon or a closing parenthesis. No flag may come twice, and a hyphen may
come once and not last. `on` until the hyphen. -/
def takeFlags? : (on : Bool) → FlagChanges → List Char → Option (FlagChanges × List Char)
  | _, _, [] => none
  | on, changes, c :: rest =>
    if c = ':' || c = ')' then some (changes, c :: rest)
    else if c = '-' then
      match on, rest with
      | true, d :: _ => if d = ':' || d = ')' then none else takeFlags? false changes rest
      | _, _ => none
    else do
      let flag ← flag? c
      if changes.any fun change => change.1 == flag then none
      else takeFlags? on (changes ++ [(flag, on)]) rest

def isNameStart (c : Char) : Bool :=
  c == '_' || isAlphabetic c

def isNameChar (c : Char) : Bool :=
  c == '_' || c == '.' || c == '[' || c == ']' || isAlphabetic c || isNumeric c

/-- Reads the name of a group and the sign that closes it. The name must be new. -/
def takeName? (cursor : Cursor) (cs : List Char) : Option Cursor := do
  let (name, rest) ← cutAt? ['>'] cs
  match name with
  | [] => none
  | c :: others =>
    if isNameStart c && others.all isNameChar && !cursor.names.contains name then
      some { cursor with rest, names := name :: cursor.names }
    else none

inductive GroupStart where
  /-- flags for the rest of the enclosing group -/
  | flags (changes : FlagChanges)
  /-- a group of its own, with flags -/
  | group (captures : Bool) (changes : FlagChanges)
  deriving Repr

/-- Whether a list of changes says if blanks and comments count. -/
def verboseAfter (verbose : Bool) (changes : FlagChanges) : Bool :=
  match changes.find? fun change => change.1 == .verbose with
  | some change => change.2
  | none => verbose

/-- Reads the start of a group, after the opening parenthesis. Looking around is not offered. -/
def takeGroupStart? (cursor : Cursor) : Option (GroupStart × Cursor) :=
  match cursor.spaced cursor.rest with
  | '?' :: '=' :: _ => none
  | '?' :: '!' :: _ => none
  | '?' :: '<' :: '=' :: _ => none
  | '?' :: '<' :: '!' :: _ => none
  | '?' :: 'P' :: '<' :: rest => (takeName? cursor rest).map fun cursor => (.group true [], cursor)
  | '?' :: '<' :: rest => (takeName? cursor rest).map fun cursor => (.group true [], cursor)
  | '?' :: rest => do
    let (changes, rest) ← takeFlags? true [] rest
    match rest with
    | ')' :: rest => if changes.isEmpty then none else some (.flags changes, cursor.goTo rest)
    | ':' :: rest => some (.group false changes, cursor.goTo rest)
    | _ => none
  | rest => some (.group true [], cursor.goTo rest)

/-! ### Whole patterns -/

/-- The sequence of the members read so far, the latest first. -/
def sequenceOf (members : List Tree) : Tree :=
  match members with
  | [] => .empty
  | [member] => member
  | members => .sequence members.reverse

/-- The alternatives read so far, the latest first, with the members of a last one. -/
def alternativesOf (earlier : List Tree) (members : List Tree) : Tree :=
  match earlier with
  | [] => sequenceOf members
  | earlier => .alternatives (sequenceOf members :: earlier).reverse

def takeGroup? : Nat → (earlier members : List Tree) → Cursor → Option (Tree × Cursor)
  | 0, _, _, _ => none
  | bound + 1, earlier, members, cursor =>
    let next (tree : Tree) (rest : List Char) :=
      takeGroup? bound earlier (tree :: members) (cursor.goTo rest)
    let repeated (repeats : Repeats) (rest : List Char) := do
      let members ← repeatLatest? repeats members
      takeGroup? bound earlier members (cursor.goTo rest)
    let signed (least : Nat) (most : Option Nat) (rest : List Char) :=
      let (greedy, rest) := takeLazySign rest
      repeated (least, most, greedy) rest
    match cursor.spaced cursor.rest with
    | [] => some (alternativesOf earlier members, cursor.goTo [])
    | ')' :: rest => some (alternativesOf earlier members, cursor.goTo (')' :: rest))
    | '|' :: rest => takeGroup? bound (sequenceOf members :: earlier) [] (cursor.goTo rest)
    | '(' :: rest => do
      let (start, inside) ← takeGroupStart? (cursor.goTo rest)
      match start with
      | .flags changes =>
        let verbose := verboseAfter cursor.verbose changes
        takeGroup? bound earlier (.flags changes :: members) { inside with verbose }
      | .group captures changes =>
        let verbose := verboseAfter cursor.verbose changes
        let (tree, closed) ← takeGroup? bound [] [] { inside with verbose }
        match closed.rest with
        | ')' :: rest =>
          let after : Cursor := { closed with rest, verbose := cursor.verbose }
          takeGroup? bound earlier (.group captures changes tree :: members) after
        | _ => none
    | '[' :: rest => do
      let (tree, after) ← takeBracket? cursor rest
      next tree after
    | '?' :: rest => signed 0 (some 1) rest
    | '*' :: rest => signed 0 none rest
    | '+' :: rest => signed 1 none rest
    | '{' :: rest => do
      let (repeats, after) ← takeCounts? cursor rest
      repeated repeats after
    | '\\' :: rest => do
      let (tree, after) ← takeEscape? cursor rest
      next tree after
    | '.' :: rest => next .dot rest
    | '^' :: rest => next (.assertion .caret) rest
    | '$' :: rest => next (.assertion .dollar) rest
    | c :: rest => next (.literal ⟨c, false⟩) rest

/-- The tree that a text spells, if it follows the syntax and is not nested too deeply. -/
def Tree.ofText? (text : List Char) : Option Tree := do
  let (tree, cursor) ← takeGroup? (text.length + 1) [] [] ⟨text, false, []⟩
  if cursor.rest.isEmpty && tree.depth ≤ maxDepth then some tree else none

end EstateSearch.Pattern
