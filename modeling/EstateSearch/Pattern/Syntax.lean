import EstateSearch.Pattern.Expression

/-!
# The syntax of patterns

The tree that the text of a pattern spells, before flags are applied and names of properties are
looked up.

The syntax is the documented one of `regex`.
-/

set_option autoImplicit false

namespace EstateSearch.Pattern

inductive Flag where
  /-- letters match in either case -/
  | ignoreCase
  /-- line assertions look at lines instead of the whole text -/
  | multiLine
  /-- the dot matches a line feed too -/
  | dotAll
  /-- repetitions prefer short matches unless they say otherwise -/
  | swapGreed
  /-- classes and boundaries know all of Unicode; otherwise ASCII only -/
  | unicode
  /-- a carriage return ends a line too -/
  | carriageReturn
  /-- blanks and comments in the pattern do not count -/
  | verbose
  deriving DecidableEq, Repr

/-- Flags to be turned on (`true`) or off, in the order in which they are written. -/
abbrev FlagChanges := List (Flag × Bool)

/-- A literal character; `isByte` when it was written as two hexadecimal digits, which can stand
for a byte. -/
structure Literal where
  char : Char
  isByte : Bool
  deriving DecidableEq, Repr

inductive Shorthand where
  | digit
  | blank
  | word
  deriving DecidableEq, Repr

inductive AsciiClass where
  | alnum | alpha | ascii | blank | cntrl | digit | graph | lower | print | punct | space | upper
  | word | xdigit
  deriving DecidableEq, Repr

inductive PropertyName where
  /-- a category, script or property on its own -/
  | plain (name : List Char)
  /-- a property and the value that it has to have -/
  | valued (name value : List Char)
  deriving DecidableEq, Repr

inductive SetTree where
  | literal (l : Literal)
  | range (first last : Literal)
  | ascii (negated : Bool) (name : AsciiClass)
  | shorthand (negated : Bool) (name : Shorthand)
  | property (negated : Bool) (name : PropertyName)
  | bracket (negated : Bool) (set : SetTree)
  | union (members : List SetTree)
  | intersection (a b : SetTree)
  | difference (a b : SetTree)
  | symmetricDifference (a b : SetTree)
  deriving Repr

/-- The assertions as they are written; what they mean hangs on the flags. -/
inductive AssertionSign where
  | caret
  | dollar
  | textStart
  | textEnd
  | boundary
  | noBoundary
  | wordStart
  | wordEnd
  | wordStartHalf
  | wordEndHalf
  deriving DecidableEq, Repr

inductive Tree where
  | empty
  /-- flags for the rest of the group -/
  | flags (changes : FlagChanges)
  | literal (l : Literal)
  | dot
  | assertion (sign : AssertionSign)
  | shorthand (negated : Bool) (name : Shorthand)
  | property (negated : Bool) (name : PropertyName)
  | bracket (negated : Bool) (set : SetTree)
  /-- `greedy` unless a sign asks for short matches -/
  | repetition (least : Nat) (most : Option Nat) (greedy : Bool) (tree : Tree)
  /-- `captures` unless the group is there for its flags or for its bounds only -/
  | group (captures : Bool) (changes : FlagChanges) (tree : Tree)
  | alternatives (trees : List Tree)
  | sequence (trees : List Tree)
  deriving Repr

mutual

def SetTree.depth : SetTree → Nat
  | bracket _ set => set.depth + 1
  | union [] => 0
  | union members => SetTree.depthOfEach members + 1
  | intersection a b => max a.depth b.depth + 1
  | difference a b => max a.depth b.depth + 1
  | symmetricDifference a b => max a.depth b.depth + 1
  | _ => 0

def SetTree.depthOfEach : List SetTree → Nat
  | [] => 0
  | member :: others => max member.depth (SetTree.depthOfEach others)

end

mutual

def Tree.depth : Tree → Nat
  | bracket _ set => set.depth + 1
  | repetition _ _ _ tree => tree.depth + 1
  | group _ _ tree => tree.depth + 1
  | alternatives trees => Tree.depthOfEach trees + 1
  | sequence trees => Tree.depthOfEach trees + 1
  | _ => 0

def Tree.depthOfEach : List Tree → Nat
  | [] => 0
  | tree :: others => max tree.depth (Tree.depthOfEach others)

end

/-- Patterns that are nested more deeply than this are refused. -/
def maxDepth : Nat := 250

end EstateSearch.Pattern
