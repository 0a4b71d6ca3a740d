import EstateSearch.Proofs.Text.Capitals
import EstateSearch.Proofs.Text.Lowercase
import EstateSearch.Proofs.Text.Passage
import EstateSearch.Proofs.Text.Trim
import EstateSearch.Proofs.Text.Words

/-!
# Lowercase and the places where a text is cut

Queries are cut at blanks, quotes and hyphens. Lowercase leaves these separators where they are and
makes no new ones (`mem_lowercase_of_isSeparator`), and no character is seen across them by its
neighbours. So it does not matter whether a text is cut first or lowercased first
(`lowercase_append_separator`): the pieces, the words and the trimmed text of a lowercase text are
the lowercase ones of the text (`splitOnP_lowercase`, `words_lowercase`, `trim_lowercase`).

What the separators have to be for this is read off the tables: they are no capitals, neither cased
nor ignorable, and outside of the code points that a row maps to.
-/

set_option autoImplicit false

namespace EstateSearch.Text

/-- Is the character one at which queries are cut: a blank, a quote or a hyphen? -/
def isSeparator (c : Char) : Bool := isBlank c || c == '"' || c == '-'

theorem isSeparator_of_isBlank {c : Char} (h : isBlank c = true) : isSeparator c = true := by
  simp [isSeparator, h]

theorem isSeparator_quote : isSeparator '"' = true := by decide

theorem isSeparator_hyphen : isSeparator '-' = true := by decide

/-! ### Separators in the tables -/

def separators : List Nat :=
  [0x09, 0x0A, 0x0B, 0x0C, 0x0D, 0x20, 0x22, 0x2D, 0x85, 0xA0, 0x1680, 0x2000, 0x2001, 0x2002,
   0x2003, 0x2004, 0x2005, 0x2006, 0x2007, 0x2008, 0x2009, 0x200A, 0x2028, 0x2029, 0x202F, 0x205F,
   0x3000]

theorem toNat_mem_separators {c : Char} (h : isSeparator c = true) : c.toNat ∈ separators := by
  have quote : c = '"' ↔ c.toNat = 0x22 := Char.toNat_inj.symm
  have hyphen : c = '-' ↔ c.toNat = 0x2D := Char.toNat_inj.symm
  simp only [isSeparator, isBlank, Bool.or_eq_true, Bool.and_eq_true, decide_eq_true_eq,
    beq_iff_eq, quote, hyphen] at h
  simp only [separators, List.mem_cons, List.not_mem_nil, or_false]
  omega

namespace Casing

/-- Separators are no letters, and they do not stand inside of words. -/
theorem separators_part_words :
    (separators.all fun n => !inRanges cased n && !inRanges caseIgnorable n &&
      !capitalRows.any (·.holds n)) = true := by
  decide +kernel

/-- The code points that a row maps to lie to one side of every separator. -/
theorem rows_avoid_separators :
    ((rows ++ laterRows).all fun row => separators.all fun n =>
      Nat.blt n row.target || Nat.blt (row.lower row.last) n) = true := by
  decide +kernel

/-- No letter becomes a separator in lowercase. -/
theorem lower_ne_separator {row : Row} (listed : row ∈ rows ++ laterRows) {n m : Nat}
    (held : row.holds n = true) (h : m ∈ separators) : row.lower n ≠ m := by
  obtain ⟨least, most, -⟩ := Row.holds_iff.1 held
  have apart := List.all_eq_true.1 (List.all_eq_true.1 rows_avoid_separators row listed) m h
  simp only [Row.lower, Bool.or_eq_true, Nat.blt_eq] at apart ⊢
  omega

end Casing

section Separator

variable {c : Char} (h : isSeparator c = true)

include h

theorem parts_words_of_isSeparator :
    isCased c = false ∧ isCaseIgnorable c = false ∧ isCapital c = false := by
  have parts := List.all_eq_true.1 Casing.separators_part_words _ (toNat_mem_separators h)
  simp only [Bool.and_eq_true, Bool.not_eq_true'] at parts
  exact ⟨parts.1.1, parts.1.2, parts.2⟩

/-- At a separator the search for a cased letter stops. -/
theorem meetsCased_separator (more : List Char) : meetsCased (c :: more) = false := by
  obtain ⟨uncased, stops, -⟩ := parts_words_of_isSeparator h
  rw [meetsCased, List.dropWhile_cons_of_neg (by simp [stops])]
  exact uncased

/-- No other character becomes a separator in lowercase. -/
theorem eq_of_lowerChar_eq {d : Char} (lowered : lowerChar d = c) : d = c := by
  unfold lowerChar Casing.lowerBy at lowered
  split at lowered
  · rename_i row found
    have held := List.find?_some found
    have listed := List.mem_of_find?_eq_some found
    have belongs := toNat_mem_separators h
    exfalso
    by_cases valid : (row.lower d.toNat).isValidChar
    · have character : Char.ofNat (row.lower d.toNat) = Char.ofNatAux _ valid := dif_pos valid
      rw [← lowered, character] at belongs
      exact Casing.lower_ne_separator listed held belongs rfl
    · have first : Char.ofNat (row.lower d.toNat) = '\x00' := dif_neg valid
      rw [← lowered, first] at belongs
      exact absurd belongs (by decide)
  · exact lowered

/-- A separator in the lowercase of a character is that character itself. -/
theorem eq_of_mem_lowerBetween {before after : List Char} {d : Char}
    (belongs : c ∈ lowerBetween before d after) : d = c := by
  unfold lowerBetween at belongs
  split at belongs
  · rw [List.mem_singleton] at belongs
    split at belongs
    · exact absurd (belongs ▸ h) (by decide)
    · exact absurd (belongs ▸ h) (by decide)
  · split at belongs
    · simp only [List.mem_cons, List.not_mem_nil, or_false] at belongs
      rcases belongs with rfl | rfl
      · exact absurd h (by decide)
      · exact absurd h (by decide)
    · rw [List.mem_singleton] at belongs
      exact eq_of_lowerChar_eq h belongs.symm

/-! ### Separators in texts -/

/-- Where a text is cut at a separator, its two sides are lowercased apart. -/
theorem lowercase_append_separator (text more : List Char) :
    lowercase (text ++ c :: more) = lowercase text ++ c :: lowercase more := by
  have front : lowercaseBetween [] text (c :: more) = lowercase text :=
    lowercaseBetween_eq_lowercase rfl (meetsCased_separator h more) text
  have behind : lowercaseAfter (c :: text.reverse) more = lowercase more := by
    rw [← lowercaseBetween_nil]
    exact lowercaseBetween_eq_lowercase (meetsCased_separator h _) rfl more
  have separator : lowerBetween text.reverse c more = [c] :=
    lowerBetween_eq_self (parts_words_of_isSeparator h).2.2 text.reverse more
  rw [lowercase, lowercaseAfter_append, front, List.append_nil, lowercaseAfter, separator, behind,
    List.singleton_append]

/-- Behind a separator lowercase starts afresh. -/
theorem lowercase_cons_separator (more : List Char) : lowercase (c :: more) = c :: lowercase more :=
  lowercase_append_separator h [] more

/-- The separators of a lowercase text are those of the text. -/
theorem mem_lowercase_of_isSeparator {text : List Char} : c ∈ lowercase text ↔ c ∈ text := by
  constructor
  · rw [lowercase]
    generalize ([] : List Char) = before
    induction text generalizing before with
    | nil => simp [lowercaseAfter]
    | cons d text ih =>
      rw [lowercaseAfter, List.mem_append, List.mem_cons]
      exact Or.imp (fun here => (eq_of_mem_lowerBetween h here).symm) (ih _)
  · intro belongs
    obtain ⟨start, rest, rfl⟩ := List.append_of_mem belongs
    rw [lowercase_append_separator h]
    simp

/-- A lowercase text starts with a separator just if the text does. -/
theorem head?_lowercase_of_isSeparator {text : List Char} :
    (lowercase text).head? = some c ↔ text.head? = some c := by
  cases text with
  | nil => rfl
  | cons d rest =>
    constructor
    · intro first
      rw [lowercase, lowercaseAfter,
        List.head?_append_of_ne_nil _ (lowerBetween_ne_nil [] d rest)] at first
      rw [eq_of_mem_lowerBetween h (List.mem_of_head? first)]
      rfl
    · intro first
      obtain rfl : d = c := Option.some.inj first
      rw [lowercase_cons_separator h]
      rfl

theorem getLast?_of_getLast?_lowercase {text : List Char}
    (last : (lowercase text).getLast? = some c) : text.getLast? = some c := by
  rcases List.eq_nil_or_concat text with rfl | ⟨init, d, rfl⟩
  · cases last
  · rw [List.concat_eq_append] at last ⊢
    rw [lowercase, lowercaseAfter_append, lowercaseAfter, lowercaseAfter, List.append_nil,
      List.getLast?_append_of_ne_nil _ (lowerBetween_ne_nil _ d [])] at last
    rw [eq_of_mem_lowerBetween h (List.mem_of_getLast? last), List.getLast?_concat]

end Separator

/-- No separator comes into a text by lowercase. -/
theorem uncut_lowercase {cut : Char → Bool} (h : ∀ c, cut c = true → isSeparator c = true)
    {text : List Char} (uncut : ∀ c ∈ text, cut c = false) :
    ∀ c ∈ lowercase text, cut c = false := by
  intro c belongs
  refine Bool.eq_false_iff.2 fun cuts => ?_
  have inText := (mem_lowercase_of_isSeparator (h c cuts)).1 belongs
  exact Bool.eq_false_iff.1 (uncut c inText) cuts

theorem solid_lowercase {text : List Char} (solid : ∀ c ∈ text, isBlank c = false) :
    ∀ c ∈ lowercase text, isBlank c = false :=
  uncut_lowercase (fun _ => isSeparator_of_isBlank) solid

/-! ### Trimming -/

theorem lowercase_blanks_append {blanks : List Char} (h : ∀ c ∈ blanks, isBlank c = true)
    (text : List Char) : lowercase (blanks ++ text) = blanks ++ lowercase text := by
  induction blanks with
  | nil => rfl
  | cons c blanks ih =>
    rw [List.forall_mem_cons] at h
    rw [List.cons_append, lowercase_cons_separator (isSeparator_of_isBlank h.1), ih h.2,
      List.cons_append]

theorem lowercase_append_blanks {blanks : List Char} (h : ∀ c ∈ blanks, isBlank c = true)
    (text : List Char) : lowercase (text ++ blanks) = lowercase text ++ blanks := by
  cases blanks with
  | nil => simp
  | cons c blanks =>
    rw [List.forall_mem_cons] at h
    have rest := lowercase_blanks_append h.2 []
    rw [List.append_nil] at rest
    rw [lowercase_append_separator (isSeparator_of_isBlank h.1), rest]
    simp [lowercase, lowercaseAfter]

theorem IsTrimmed.lowercase {text : List Char} (h : IsTrimmed text) :
    IsTrimmed (lowercase text) where
  start c first := by
    refine Bool.eq_false_iff.2 fun blank => ?_
    have inText := (head?_lowercase_of_isSeparator (isSeparator_of_isBlank blank)).1 first
    exact Bool.eq_false_iff.1 (h.start c inText) blank
  finish c last := by
    refine Bool.eq_false_iff.2 fun blank => ?_
    have inText := getLast?_of_getLast?_lowercase (isSeparator_of_isBlank blank) last
    exact Bool.eq_false_iff.1 (h.finish c inText) blank

theorem trim_lowercase (text : List Char) : trim (lowercase text) = lowercase (trim text) := by
  obtain ⟨before, after, blanks, blanks', split⟩ := exists_eq_append_trim text
  calc trim (lowercase text)
      = trim (lowercase (before ++ trim text ++ after)) := by rw [← split]
    _ = trim (before ++ lowercase (trim text) ++ after) := by
        rw [lowercase_append_blanks blanks', lowercase_blanks_append blanks]
    _ = lowercase (trim text) :=
        trim_append_append (isTrimmed_trim text).lowercase blanks blanks'

/-! ### Pieces and words -/

/-- Cutting at separators and lowercase can be done in either order. -/
theorem splitOnP_lowercase {cut : Char → Bool} (h : ∀ c, cut c = true → isSeparator c = true)
    (text : List Char) : (lowercase text).splitOnP cut = (text.splitOnP cut).map lowercase := by
  induction text using inductionOnPieces cut with
  | piece text uncut =>
    rw [List.splitOnP_eq_singleton (uncut_lowercase h uncut), List.splitOnP_eq_singleton uncut,
      List.map_singleton]
  | append first c rest uncut cuts ih =>
    rw [lowercase_append_separator (h c cuts),
      List.splitOnP_append_cons_of_forall_mem (uncut_lowercase h uncut) c cuts,
      List.splitOnP_append_cons_of_forall_mem uncut c cuts, ih, List.map_cons]

theorem filter_map_lowercase {keeps : List Char → Bool}
    (h : ∀ piece, keeps (lowercase piece) = keeps piece) (list : List (List Char)) :
    (list.map lowercase).filter keeps = (list.filter keeps).map lowercase := by
  rw [List.filter_map]
  simp only [Function.comp_def, h]

/-- The words of the lowercase are the words in lowercase. -/
theorem words_lowercase (text : List Char) :
    words (lowercase text) = (words text).map lowercase := by
  rw [words_eq, words_eq, splitOnP_lowercase fun _ => isSeparator_of_isBlank]
  refine filter_map_lowercase (fun piece => ?_) _
  rw [Bool.eq_iff_iff]
  simp [lowercase_eq_nil]

end EstateSearch.Text
