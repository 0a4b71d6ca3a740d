import EstateSearch.Pattern.Automaton.Tally

/-!
# States for alternatives that are texts

Alternatives that are all texts of bytes share states for what they start with. As an earlier
alternative is preferred, an alternative that ends where others go on parts the ones before it from
the ones after it: only within such a chunk do alternatives share a decision on the next byte.
-/

set_option autoImplicit false

namespace EstateSearch.Pattern

/-- The texts that go on, in chunks between which a text ends. -/
def chunks (texts : List (List Nat)) : List (List (List Nat)) :=
  (texts.splitBy fun a b => a.isEmpty == b.isEmpty).filter fun chunk => chunk.any (!·.isEmpty)

/-- How many ends of texts are noted. Before the first text that goes on, one is enough. -/
def endings (texts : List (List Nat)) : Nat :=
  let leading := texts.takeWhile List.isEmpty
  let others := texts.dropWhile List.isEmpty
  min leading.length 1 + others.countP List.isEmpty

/-- Counts the states for the rests, of at most `longest` bytes, of texts that have started with
the same bytes. Where all of them end there is no further state. -/
def addRests : (longest : Nat) → List (List Nat) → Counting Unit
  | 0, _ => pure ()
  | longest + 1, texts =>
    if texts.all List.isEmpty then pure ()
    else do
      (chunks texts).forM fun chunk => do
        let heads := (chunk.filterMap List.head?).eraseDups
        heads.forM fun byte =>
          addRests longest ((chunk.filter fun text => text.head? == some byte).map List.tail)
        if heads.length = 1 then addPlain else addArcs heads.length
      addFork ((chunks texts).length + endings texts)

def addTexts (texts : List (List Nat)) : Counting Unit := do
  addPlain
  addRests ((texts.map List.length).max?.getD 0) texts

end EstateSearch.Pattern
