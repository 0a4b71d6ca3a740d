/-!
# Blanks, trimming and words

A blank is a character with the Unicode property `White_Space`. On top of that one class stand
trimming at both ends and cutting a text into its maximal blank-free words. Texts are lists of
characters here, so that every function is a plain recursion.

`search/src/query/parser` trims and cuts queries in this way.
-/

set_option autoImplicit false

namespace EstateSearch.Text

/-- Does the character have the property `White_Space`? -/
def isBlank (c : Char) : Bool :=
  let n := c.toNat
  (0x09 ≤ n && n ≤ 0x0D) || n == 0x20 || n == 0x85 || n == 0xA0 || n == 0x1680 ||
    (0x2000 ≤ n && n ≤ 0x200A) || n == 0x2028 || n == 0x2029 || n == 0x202F || n == 0x205F ||
    n == 0x3000

def trimStart (text : List Char) : List Char :=
  text.dropWhile isBlank

def trimEnd (text : List Char) : List Char :=
  (text.reverse.dropWhile isBlank).reverse

def trim (text : List Char) : List Char :=
  trimEnd (trimStart text)

def isBlankText (text : List Char) : Bool :=
  text.all isBlank

/-- The pieces between the characters that satisfy `cut`: one more piece than there are cuts, and
pieces may be empty. -/
def pieces (cut : Char → Bool) : List Char → List (List Char)
  | [] => [[]]
  | c :: rest =>
    if cut c then [] :: pieces cut rest
    else match pieces cut rest with
      | [] => [[c]]
      | piece :: others => (c :: piece) :: others

/-- The maximal blank-free stretches of a text, in order. -/
def words (text : List Char) : List (List Char) :=
  (pieces isBlank text).filter fun word => !word.isEmpty

/-- No piece holds a character that cuts. -/
theorem not_cut_of_mem_pieces (cut : Char → Bool) (text : List Char) :
    ∀ piece ∈ pieces cut text, ∀ c ∈ piece, cut c = false := by
  induction text with
  | nil => simp [pieces]
  | cons c rest ih =>
    unfold pieces
    split
    · intro piece hp
      rcases List.mem_cons.1 hp with rfl | hp
      · simp
      · exact ih piece hp
    · rename_i hc
      have hc : cut c = false := by simpa using hc
      split
      · intro piece hp d hd
        simp only [List.mem_singleton] at hp
        subst hp
        simp only [List.mem_singleton] at hd
        exact hd ▸ hc
      · rename_i first others heq
        intro piece hp d hd
        rw [heq] at ih
        rcases List.mem_cons.1 hp with rfl | hp
        · rcases List.mem_cons.1 hd with rfl | hd
          · exact hc
          · exact ih first (List.mem_cons_self ..) d hd
        · exact ih piece (List.mem_cons_of_mem _ hp) d hd

/-- A word is never empty and holds no blank. -/
theorem mem_words {text word : List Char} (h : word ∈ words text) :
    word ≠ [] ∧ ∀ c ∈ word, isBlank c = false := by
  simp only [words, List.mem_filter] at h
  exact ⟨by simpa using h.2, not_cut_of_mem_pieces isBlank text word h.1⟩

end EstateSearch.Text
