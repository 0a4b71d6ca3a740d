import EstateSearch.Pattern.Automaton

/-!
# The size of an expression

An expression is only accepted if the automata for it stay within a limit of memory. A rough bound,
read off the form of the expression, settles that for most expressions; the states are counted for
the others only.

The limit is the one that `regex` sets where nothing else is said.
-/

set_option autoImplicit false

namespace EstateSearch.Pattern

/-- More bytes than the states for one range of characters take: a range is made up of less than
thirty sequences of at most four ranges of bytes. -/
def rangeBound : Nat := 4000

/-- More bytes than the states for the characters of general categories, or for the case variants
of any characters, take. -/
def tableBound : Nat := 2000000

/-- At least as many bytes as the states for one character of a set take. -/
def CharSet.bound : CharSet → Nat
  | nothing => rangeBound
  | range _ _ => rangeBound
  | categories _ => tableBound
  | blank => 10 * rangeBound
  | ranges members => rangeBound * (members.length + 1)
  | union a b => a.bound + b.bound
  | intersection a b => a.bound + b.bound
  | difference a b => a.bound + b.bound
  | complement a => a.bound + rangeBound
  | folded a => a.bound + tableBound
  | foldedAscii a => a.bound + 52 * rangeBound

/-- At least as many bytes as the states for an expression take. -/
def Expression.bound : Expression → Nat
  | empty => rangeBound
  | one set => set.bound
  | look _ => rangeBound
  | sequence a b => a.bound + b.bound
  | either a b => a.bound + b.bound + rangeBound
  | times least most _ a => max 1 (most.getD least) * (a.bound + rangeBound)
  | group _ a => a.bound + rangeBound

def Expression.fits (e : Expression) : Bool := e.bound + rangeBound ≤ maxSize || e.plan.fits

end EstateSearch.Pattern
