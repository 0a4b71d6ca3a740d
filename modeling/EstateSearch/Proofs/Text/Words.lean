import EstateSearch.Text.Blank

/-!
# Cutting texts into words

The pieces of a text are those of `List.splitOnP` (`pieces_eq_splitOnP`), and what holds of them
goes by induction on them (`inductionOnPieces`). The words of a text come out one by one: a blank in
front changes nothing (`words_cons_blank`), and a word in front is the first of them if what follows
does not go on with it (`words_append`). A blank anywhere parts the words of a text in two
(`words_append_blank`, `words_append_of_getLast?`).
-/

set_option autoImplicit false

namespace EstateSearch.Text

/-- The pieces are those that the library's function cuts. -/
theorem pieces_eq_splitOnP (cut : Char → Bool) (text : List Char) :
    pieces cut text = text.splitOnP cut := by
  induction text with
  | nil => simp [pieces]
  | cons c rest ih =>
    rw [pieces, ih, List.splitOnP_cons_eq_if_modifyHead]
    split
    · rfl
    · split
      · rename_i empty
        exact absurd empty (List.splitOnP_ne_nil cut rest)
      · rename_i cutRest
        rw [cutRest, List.modifyHead_cons]

theorem words_eq (text : List Char) :
    words text = (text.splitOnP isBlank).filter fun word => !word.isEmpty := by
  rw [words, pieces_eq_splitOnP]

/-- Induction on the pieces between the characters that cut, from the last one on. -/
theorem inductionOnPieces (cut : Char → Bool) {motive : List Char → Prop}
    (piece : ∀ text, (∀ c ∈ text, cut c = false) → motive text)
    (append : ∀ first c rest, (∀ d ∈ first, cut d = false) → cut c = true → motive rest →
      motive (first ++ c :: rest)) (text : List Char) : motive text := by
  have split := List.takeWhile_append_dropWhile (p := fun c => !cut c) (l := text)
  have solid : ∀ c ∈ text.takeWhile fun c => !cut c, cut c = false := by
    intro c belongs
    have uncut := List.all_eq_true.1 (List.all_takeWhile (p := fun c => !cut c)) c belongs
    simpa using uncut
  cases rest : text.dropWhile fun c => !cut c with
  | nil =>
    rw [rest, List.append_nil] at split
    exact piece text (split ▸ solid)
  | cons c rest' =>
    have stop := List.head?_dropWhile_not (fun c => !cut c) text
    rw [rest] at split stop
    have shorter : rest'.length < text.length := by
      rw [← split, List.length_append, List.length_cons]
      omega
    rw [← split]
    exact append _ c rest' solid (by simpa using stop) (inductionOnPieces cut piece append rest')
termination_by text.length

theorem mem_of_mem_splitOnP {cut : Char → Bool} {text piece : List Char} {c : Char}
    (h : piece ∈ text.splitOnP cut) (belongs : c ∈ piece) : c ∈ text := by
  induction text using inductionOnPieces cut with
  | piece text solid =>
    rw [List.splitOnP_eq_singleton solid, List.mem_singleton] at h
    rwa [← h]
  | append first d rest solid cuts ih =>
    rw [List.splitOnP_append_cons_of_forall_mem solid d cuts, List.mem_cons] at h
    rw [List.mem_append, List.mem_cons]
    rcases h with rfl | later
    · exact .inl belongs
    · exact .inr (.inr (ih later))

theorem mem_of_mem_words {text word : List Char} {c : Char} (h : word ∈ words text)
    (belongs : c ∈ word) : c ∈ text := by
  rw [words_eq] at h
  exact mem_of_mem_splitOnP (List.mem_filter.1 h).1 belongs

theorem words_nil : words [] = [] := rfl

theorem words_cons_blank {c : Char} (h : isBlank c = true) (text : List Char) :
    words (c :: text) = words text := by
  rw [words_eq, words_eq, List.splitOnP_cons_eq_if_modifyHead, if_pos h]
  exact List.filter_cons_of_neg (by simp)

/-- Blanks in front of a text make no words. -/
theorem words_append_of_blanks {blanks : List Char} (h : ∀ c ∈ blanks, isBlank c = true)
    (text : List Char) : words (blanks ++ text) = words text := by
  induction blanks with
  | nil => rfl
  | cons c blanks ih =>
    rw [List.forall_mem_cons] at h
    rw [List.cons_append, words_cons_blank h.1, ih h.2]

/-- A text that does not go on with a word before it: it is empty or starts with a blank. -/
def IsDetached (text : List Char) : Prop := ∀ c ∈ text.head?, isBlank c = true

/-- A word before a detached text is its first word. -/
theorem words_append {word text : List Char} (nonempty : word ≠ [])
    (solid : ∀ c ∈ word, isBlank c = false) (detached : IsDetached text) :
    words (word ++ text) = word :: words text := by
  have kept : (!word.isEmpty) = true := by simpa using nonempty
  cases text with
  | nil =>
    rw [List.append_nil, words_eq, List.splitOnP_eq_singleton solid]
    exact List.filter_cons_of_pos kept
  | cons c text =>
    have blank : isBlank c = true := detached c (by simp)
    rw [words_cons_blank blank, words_eq, words_eq,
      List.splitOnP_append_cons_of_forall_mem solid c blank]
    exact List.filter_cons_of_pos kept

/-- A blank in the middle parts the words before it from those after it. -/
theorem words_append_blank {c : Char} (h : isBlank c = true) (text more : List Char) :
    words (text ++ c :: more) = words text ++ words more := by
  rw [words_eq, List.splitOnP_append_cons text more h, List.filter_append, ← words_eq, ← words_eq]

/-- Behind a blank, and at the start of a text, a new word begins. -/
theorem words_append_of_getLast? {text : List Char} (h : ∀ c ∈ text.getLast?, isBlank c = true)
    (more : List Char) : words (text ++ more) = words text ++ words more := by
  rcases List.eq_nil_or_concat text with rfl | ⟨init, c, rfl⟩
  · rfl
  · rw [List.concat_eq_append] at h ⊢
    have blank : isBlank c = true := h c (by simp)
    rw [List.append_assoc, List.singleton_append, words_append_blank blank,
      words_append_blank blank, words_nil, List.append_nil]

end EstateSearch.Text
