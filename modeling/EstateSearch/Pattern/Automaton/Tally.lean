/-!
# Counting the states of an automaton

The states of an automaton are counted, not built: what matters is how many bytes they take, and
that their number stays within a limit. A state is known by how many states were there before it.
-/

set_option autoImplicit false

namespace EstateSearch.Pattern

/-- The bytes that an automaton may take: ten megabytes. -/
def maxSize : Nat := 10 * 1024 * 1024

def stateSize : Nat := 32

/-- The bytes of a way on from a state under a condition on the next byte. -/
def arcSize : Nat := 8

def forkSize : Nat := 4

structure Tally where
  states : Nat := 0
  bytes : Nat := 0
  deriving DecidableEq, Repr

/-- Counting of states, which ends where the limit is passed. -/
abbrev Counting := StateT Tally Option

/-- Counts a state that takes `extra` bytes more than every state does, and gives its number. -/
def addState (extra : Nat) : Counting Nat := fun tally =>
  let bytes := tally.bytes + stateSize + extra
  if bytes ≤ maxSize then some (tally.states, ⟨tally.states + 1, bytes⟩) else none

/-- Counts a state with at most one way on. -/
def addPlain : Counting Unit := discard (addState 0)

/-- Counts a state with ways on that depend on the next byte. -/
def addArcs (count : Nat) : Counting Unit := discard (addState (arcSize * count))

/-- Counts a state with ways on between which nothing decides. -/
def addFork (count : Nat) : Counting Unit := discard (addState (forkSize * count))

def replicateTimes : Nat → Counting Unit → Counting Unit
  | 0, _ => pure ()
  | count + 1, act => do
    act
    replicateTimes count act

def Counting.fits (act : Counting Unit) : Bool := (act.run {}).isSome

end EstateSearch.Pattern
