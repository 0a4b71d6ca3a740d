import EstateSearch.Pattern.CharSet.Ranges
import EstateSearch.Pattern.Expression
import EstateSearch.Text.Utf8

/-!
# Plans for automata

The form of an expression from which an automaton is built. It is simplified on the way: characters
in a row become one text of bytes, sequences and alternatives inside of their like are merged,
alternatives that are single characters become a set, and what all alternatives start with is put
before them. So the size of an automaton hangs on the plan alone.
-/

set_option autoImplicit false

namespace EstateSearch.Pattern

open Text

/-- What an automaton is built from. -/
inductive Plan where
  | empty
  /-- bytes in UTF-8, at least one -/
  | literal (bytes : List Nat)
  /-- one character out of ordered ranges -/
  | oneOf (ranges : List (Nat × Nat))
  | look (assertion : Assertion)
  | times (least : Nat) (most : Option Nat) (greedy : Bool) (a : Plan)
  | capture (a : Plan)
  | sequence (parts : List Plan)
  | either (options : List Plan)
  deriving Repr

/-- What the plans around a plan have to know of it. -/
structure Traits where
  /-- the least number of bytes of a match; none if there is no match -/
  shortest : Option Nat
  /-- the greatest number of bytes of a match, if there is one -/
  longest : Option Nat
  /-- does every match start at the start of the text, by the form of the plan? -/
  startsText : Bool
  /-- does every match end at the end of the text, by the form of the plan? -/
  endsText : Bool
  deriving DecidableEq, Repr

def total (lengths : List Nat) : Nat := lengths.foldl (· + ·) 0

namespace Traits

def empty : Traits := ⟨some 0, some 0, false, false⟩

def mayAdvance (traits : Traits) : Bool := traits.longest != some 0

def inSequence (parts : List Traits) : Traits :=
  let bound (parts : List Traits) : List Traits :=
    parts.takeWhile (!·.mayAdvance) ++ (parts.dropWhile (!·.mayAdvance)).take 1
  { shortest := (parts.mapM shortest).map total
    longest := (parts.mapM longest).map total
    startsText := (bound parts).any (·.startsText)
    endsText := (bound parts.reverse).any (·.endsText) }

def inChoice (options : List Traits) : Traits :=
  { shortest := (options.mapM shortest).bind List.min?
    longest := (options.mapM longest).bind List.max?
    startsText := options.all (·.startsText)
    endsText := options.all (·.endsText) }

def repeated (least : Nat) (most : Option Nat) (traits : Traits) : Traits :=
  { shortest := traits.shortest.map (· * least)
    longest := do
      let count ← most
      let length ← traits.longest
      return length * count
    startsText := least ≠ 0 && traits.startsText
    endsText := least ≠ 0 && traits.endsText }

end Traits

namespace Plan

mutual

def traits : Plan → Traits
  | empty => .empty
  | literal bytes => ⟨some bytes.length, some bytes.length, false, false⟩
  | oneOf ranges =>
    { shortest := ranges.head?.map fun range => (utf8Bytes range.1).length
      longest := ranges.getLast?.map fun range => (utf8Bytes range.2).length
      startsText := false
      endsText := false }
  | look assertion =>
    { Traits.empty with
      startsText := assertion = .textStart
      endsText := assertion = .textEnd }
  | times least most _ a => a.traits.repeated least most
  | capture a => a.traits
  | sequence parts => .inSequence (traitsOfEach parts)
  | either options => .inChoice (traitsOfEach options)

def traitsOfEach : List Plan → List Traits
  | [] => []
  | plan :: others => plan.traits :: traitsOfEach others

end

mutual

/-- Are two plans the same? Notes of places are not, as each has a number of its own. -/
def same : Plan → Plan → Bool
  | empty, empty => true
  | literal a, literal b => a == b
  | oneOf a, oneOf b => a == b
  | look a, look b => a == b
  | times least most greedy a, times least' most' greedy' b =>
    least == least' && most == most' && greedy == greedy' && a.same b
  | sequence a, sequence b => sameEach a b
  | either a, either b => sameEach a b
  | _, _ => false

def sameEach : List Plan → List Plan → Bool
  | [], [] => true
  | a :: as, b :: bs => a.same b && sameEach as bs
  | _, _ => false

end

def ofRanges (ranges : List (Nat × Nat)) : Plan :=
  match ranges with
  | [(low, high)] => if low = high then literal (utf8Bytes low) else oneOf ranges
  | ranges => oneOf ranges

/-! ### Sequences -/

def parts : Plan → List Plan
  | empty => []
  | sequence parts => parts
  | plan => [plan]

/-- Puts a part before others; bytes are joined with the bytes that follow. -/
def before : Plan → List Plan → List Plan
  | literal a, literal b :: others => literal (a ++ b) :: others
  | plan, others => plan :: others

def inSequence (plans : List Plan) : Plan :=
  match (plans.flatMap parts).foldr before [] with
  | [] => empty
  | [plan] => plan
  | parts => sequence parts

/-! ### Alternatives -/

def point? : Plan → Option Nat
  | literal bytes =>
    if bytes.head?.map utf8Length == some bytes.length then some (codePointOf bytes) else none
  | _ => none

def ranges? : Plan → Option (List (Nat × Nat))
  | oneOf ranges => some ranges
  | _ => none

def literal? : Plan → Option (List Nat)
  | literal bytes => some bytes
  | _ => none

def options : Plan → List Plan
  | either options => options
  | plan => [plan]

def commonLength : List Plan → List Plan → Nat
  | a :: as, b :: bs => if a.same b then commonLength as bs + 1 else 0
  | _, _ => 0

/-- How many parts all alternatives have in common at their starts; none if one of them is no
sequence. -/
def sharedLength : List Plan → Nat
  | sequence first :: others =>
    (others.map fun plan =>
      match plan with
      | sequence parts => commonLength first parts
      | _ => 0).foldl min first.length
  | _ => 0

/-- The plan for alternatives, of which what they share at the start is taken out up to `bound`
times over. -/
def inChoiceWithin : (bound : Nat) → List Plan → Plan
  | bound, plans =>
    match plans.flatMap options with
    | [] => oneOf []
    | [plan] => plan
    | found =>
      match found.mapM point? with
      | some points => ofRanges (Ranges.normalize (points.map fun n => (n, n)))
      | none =>
        match found.mapM ranges? with
        | some sets => ofRanges (Ranges.normalize sets.flatten)
        | none =>
          match bound, sharedLength found with
          | bound + 1, shared + 1 =>
            let tails := found.map fun plan => inSequence (plan.parts.drop (shared + 1))
            let heads := (found.head?.map fun plan => plan.parts.take (shared + 1)).getD []
            inSequence (heads ++ [inChoiceWithin bound tails])
          | _, _ => either found

/-- The plan for alternatives. Every time that something is taken out of them, the shortest becomes
shorter. -/
def inChoice (plans : List Plan) : Plan :=
  inChoiceWithin (total ((plans.flatMap options).map fun plan => plan.parts.length)) plans

/-! ### Repetitions -/

/-- The plan for a repetition. What matches empty stretches only need not match twice. -/
def repeated (least : Nat) (most : Option Nat) (greedy : Bool) (a : Plan) : Plan :=
  let (least, most) :=
    if a.traits.mayAdvance then (least, most) else (min least 1, some (min (most.getD 1) 1))
  if most = some 0 then empty
  else if least = 1 && most = some 1 then a
  else times least most greedy a

end Plan

/-- The plans of the alternatives that an expression offers, outside of groups. -/
def Expression.plans : Expression → List Plan
  | empty => [.empty]
  | one set => [.ofRanges set.toRanges]
  | look assertion => [.look assertion]
  | sequence a b => [.inSequence [.inChoice a.plans, .inChoice b.plans]]
  | either a b => a.plans ++ b.plans
  | times least most greedy a => [.repeated least most greedy (.inChoice a.plans)]
  | group captures a => [if captures then .capture (.inChoice a.plans) else .inChoice a.plans]

def Expression.plan (e : Expression) : Plan := .inChoice e.plans

end EstateSearch.Pattern
