import EstateSearch.Pattern.CharSet

/-!
# Expressions and where they match

A pattern means an expression, and an expression means a relation between the positions of a text:
where a match may start and where it may then end. Only whether a match exists is ever asked, so
the preferences between matches do not appear.
-/

set_option autoImplicit false

namespace EstateSearch.Pattern

inductive Assertion where
  | textStart
  | textEnd
  /-- start of the text, or after a line feed -/
  | lineStart
  /-- end of the text, or before a line feed -/
  | lineEnd
  /-- as `lineStart`, where carriage returns end lines too, but not between them and a line feed -/
  | lineStartReturn
  /-- as `lineEnd`, where carriage returns end lines too, but not between them and a line feed -/
  | lineEndReturn
  /-- just one of the neighbours is a word character -/
  | boundary (ascii : Bool)
  | noBoundary (ascii : Bool)
  | wordStart (ascii : Bool)
  | wordEnd (ascii : Bool)
  /-- the character before is no word character -/
  | wordStartHalf (ascii : Bool)
  /-- the character after is no word character -/
  | wordEndHalf (ascii : Bool)
  deriving DecidableEq, Repr

/-- What a pattern asks of a stretch of text. -/
inductive Expression where
  | empty
  | one (set : CharSet)
  | look (assertion : Assertion)
  | sequence (a b : Expression)
  | either (a b : Expression)
  /-- between `least` and `most` times in a row; without `most` any number from `least` on; whether
  long or short matches are preferred does not change which there are -/
  | times (least : Nat) (most : Option Nat) (greedy : Bool) (a : Expression)
  /-- what stands in parentheses, with a note of its place if `captures` -/
  | group (captures : Bool) (a : Expression)
  deriving Repr

def isWordChar (ascii : Bool) : Option Char → Bool
  | some c => if ascii then CharSet.asciiWord.holds c else CharSet.word.holds c
  | none => false

def Assertion.holds (before after : Option Char) : Assertion → Bool
  | textStart => before.isNone
  | textEnd => after.isNone
  | lineStart => before.isNone || before == some '\n'
  | lineEnd => after.isNone || after == some '\n'
  | lineStartReturn =>
    before.isNone || before == some '\n' || (before == some '\r' && after != some '\n')
  | lineEndReturn =>
    after.isNone || after == some '\r' || (after == some '\n' && before != some '\r')
  | boundary ascii => isWordChar ascii before != isWordChar ascii after
  | noBoundary ascii => isWordChar ascii before == isWordChar ascii after
  | wordStart ascii => !isWordChar ascii before && isWordChar ascii after
  | wordEnd ascii => isWordChar ascii before && !isWordChar ascii after
  | wordStartHalf ascii => !isWordChar ascii before
  | wordEndHalf ascii => !isWordChar ascii after

def charBefore (text : List Char) : Nat → Option Char
  | 0 => none
  | position + 1 => text[position]?

def afterSteps (step : Nat → List Nat) : Nat → List Nat → List Nat
  | 0, positions => positions
  | count + 1, positions => afterSteps step count (positions.flatMap step).eraseDups

def withinSteps (step : Nat → List Nat) : Nat → List Nat → List Nat
  | 0, positions => positions
  | count + 1, positions =>
    positions ++ withinSteps step count (positions.flatMap step).eraseDups

/-- The positions where a match of the expression that starts at `position` may end. A repetition
never needs more rounds than the text has positions: further rounds would be empty. -/
def Expression.ends (text : List Char) : Expression → Nat → List Nat
  | empty, position => [position]
  | one set, position =>
    match text[position]? with
    | some c => if set.holds c then [position + 1] else []
    | none => []
  | look assertion, position =>
    if assertion.holds (charBefore text position) text[position]? then [position] else []
  | sequence a b, position => ((a.ends text position).flatMap (b.ends text)).eraseDups
  | either a b, position => (a.ends text position ++ b.ends text position).eraseDups
  | group _ a, position => a.ends text position
  | times least most _ a, position =>
    let rounds := text.length + 1
    let first := min least rounds
    let more :=
      match most with
      | some most => min (most - least) rounds
      | none => rounds
    (withinSteps (a.ends text) more (afterSteps (a.ends text) first [position])).eraseDups

def Expression.occursIn (e : Expression) (text : List Char) : Bool :=
  (List.range (text.length + 1)).any fun start => !(e.ends text start).isEmpty

end EstateSearch.Pattern
