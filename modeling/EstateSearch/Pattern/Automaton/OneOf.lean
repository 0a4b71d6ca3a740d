import Std.Data.HashMap
import EstateSearch.Pattern.Automaton.Tally
import EstateSearch.Text.Utf8

/-!
# States for one character

The states that read the bytes of one character out of ordered ranges. ASCII characters need one
decision. For others the sequences of ranges of bytes share states: read forward those that end
alike, read backward those that start alike. Which states are remembered for that is limited to a
table with one place for a key, so a state may be counted again once another key has taken its
place.
-/

set_option autoImplicit false

namespace EstateSearch.Pattern

open Text

inductive Direction where
  | forward
  | backward
  deriving DecidableEq, Repr

/-- The states that are remembered, each by a key of numbers. -/
structure Remembered where
  /-- how many places there are -/
  places : Nat
  states : Std.HashMap Nat (List Nat × Nat) := {}

namespace Remembered

/-- The place for a key: its hash by the method FNV-1a, with numbers in the place of bytes. -/
def placeOf (remembered : Remembered) (key : List Nat) : Nat :=
  let hash : UInt64 :=
    key.foldl (fun hash n => (hash ^^^ n.toUInt64) * 1099511628211) 14695981039346656037
  hash.toNat % remembered.places

/-- The state with a key, if it is still remembered. -/
def find? (remembered : Remembered) (key : List Nat) : Option Nat :=
  match remembered.states[remembered.placeOf key]? with
  | some (other, state) => if other = key then some state else none
  | none => none

/-- Remembers a state in its place, and forgets the one that had it. -/
def insert (remembered : Remembered) (key : List Nat) (state : Nat) : Remembered :=
  { remembered with
    states := remembered.states.insert (remembered.placeOf key) (key, state) }

end Remembered

/-- The remembered state with a key, or else a new one. -/
def stateFor (key : List Nat) (extra : Nat) : StateT Remembered Counting Nat := do
  match (← get).find? key with
  | some state => return state
  | none =>
    let state ← addState extra
    modify (·.insert key state)
    return state

/-- The state from which sequences of at most `longest` ranges are read on to `target`. Sequences
that start with the same range stand in a row, and the states behind come first. -/
def stateForSequences (target : Nat) : (longest : Nat) → List ByteSequence →
    StateT Remembered Counting Nat
  | 0, _ => return target
  | longest + 1, sequences =>
    if sequences.all List.isEmpty then return target
    else do
      let arcs ← (sequences.splitBy fun a b => a.head? == b.head?).mapM fun alike => do
        let next ← stateForSequences target longest (alike.map List.tail)
        return (alike.head?.bind List.head?).toList.map fun range => [range.1, range.2, next]
      let arcs := arcs.flatten
      stateFor arcs.flatten (arcSize * arcs.length)

/-- The state from which a sequence is read backward: the state after every range hangs on the
state before it. -/
def stateForReversed (target : Nat) (sequence : ByteSequence) : StateT Remembered Counting Nat :=
  sequence.foldlM (fun next range => stateFor [next, range.1, range.2] 0) target

/-- Counts the states that read one character out of ordered ranges. -/
def addOneOf (direction : Direction) (ranges : List (Nat × Nat)) : Counting Unit :=
  let sequences := ranges.flatMap fun range => byteSequences range.1 range.2
  if ranges.all fun range => range.2 < 0x80 then do
    addPlain
    addArcs ranges.length
  else
    match direction with
    | .forward => do
      let target ← addState 0
      discard ((stateForSequences target 4 sequences).run { places := 10000 })
    | .backward => do
      addFork sequences.length
      let target ← addState 0
      discard ((sequences.mapM (stateForReversed target)).run { places := 1000 })

end EstateSearch.Pattern
