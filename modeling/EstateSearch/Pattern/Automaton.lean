import EstateSearch.Pattern.Automaton.OneOf
import EstateSearch.Pattern.Automaton.Texts
import EstateSearch.Pattern.Plan

/-!
# Automata

The states of the automata for a plan. There are two: one reads a text forward and notes the places
of groups, the other reads it backward. A plan is good for a pattern only if both stay within the
limit.
-/

set_option autoImplicit false

namespace EstateSearch.Pattern

namespace Plan

/-- Counts the states for a repetition of what `act` counts, which can match an empty stretch unless
`advances`. A repetition without an end leads back from its last copy; where the copy may be passed
through without any step on, the way in and the way back are apart. -/
def addTimes (least : Nat) (most : Option Nat) (advances : Bool) (act : Counting Unit) :
    Counting Unit := do
  match least, most with
  | 0, some 1 =>
    addFork 2
    act
    addPlain
  | 0, none =>
    if advances then
      addFork 2
      act
    else
      act
      addFork 2
      addFork 2
      addPlain
  | least, none =>
    replicateTimes least act
    addFork 2
  | least, some most =>
    if least = 0 then addPlain
    replicateTimes least act
    if least ≠ most then
      addPlain
      replicateTimes (most - least) do
        addFork 2
        act

mutual

def addTo (direction : Direction) : Plan → Counting Unit
  | empty => addPlain
  | literal bytes => replicateTimes bytes.length addPlain
  | oneOf ranges => addOneOf direction ranges
  | look _ => addPlain
  | times least most _ a =>
    addTimes least most (a.traits.shortest.any (· ≠ 0)) (a.addTo direction)
  | capture a =>
    match direction with
    | .forward => do
      addPlain
      a.addTo direction
      addPlain
    | .backward => a.addTo direction
  | sequence parts => addInRow direction parts
  | either options =>
    match options.mapM literal? with
    | some texts =>
      addTexts
        (match direction with
        | .forward => texts
        | .backward => texts.map List.reverse)
    | none => addOptions direction options.length 0 options

/-- Counts the states for plans in a row, in the order in which they are read. -/
def addInRow (direction : Direction) : List Plan → Counting Unit
  | [] => pure ()
  | plan :: others =>
    match direction with
    | .forward => do
      plan.addTo direction
      addInRow direction others
    | .backward => do
      addInRow direction others
      plan.addTo direction

/-- Counts the states for alternatives; where they part and meet is counted after the second. -/
def addOptions (direction : Direction) (count : Nat) : (turn : Nat) → List Plan → Counting Unit
  | _, [] => pure ()
  | turn, plan :: others => do
    plan.addTo direction
    if turn = 1 then
      addFork count
      addPlain
    addOptions direction count (turn + 1) others

end

/-- Counts the states that let a match start after any bytes, unless it must start where reading
starts. -/
def addStart (direction : Direction) (traits : Traits) : Counting Unit := do
  let bound :=
    match direction with
    | .forward => traits.startsText
    | .backward => traits.endsText
  if bound then addPlain
  else
    addFork 2
    addPlain
    addArcs 1

def addAutomaton (direction : Direction) (plan : Plan) : Counting Unit := do
  addStart direction plan.traits
  (capture plan).addTo direction
  addPlain

/-- So many alternatives that are texts are looked for without an automaton. -/
def manyTexts : Nat := 3000

/-- Are the alternatives of a plan texts, and so many that it needs no automaton? -/
def isDictionary : Plan → Bool
  | either options => manyTexts ≤ options.length && options.all fun plan => plan.literal?.isSome
  | _ => false

/-- Do the automata for a plan stay within the limit? -/
def fits (plan : Plan) : Bool :=
  plan.isDictionary ||
    [Direction.forward, .backward].all fun direction => (plan.addAutomaton direction).fits

end Plan

end EstateSearch.Pattern
