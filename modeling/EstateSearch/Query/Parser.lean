import EstateSearch.Query.Basic
import EstateSearch.TermPolicy
import EstateSearch.Text.Blank

/-!
# Reading queries

A query is read in passes over what is left of the text. The first takes out the stretches between
quotes as phrases and leaves a space for each; a quote without a partner stays. The second takes
out the words that start with a hyphen and go on, as exclusions. The words that then remain are the
terms. Reading never fails.

Source: `search/src/query/parser`.
-/

set_option autoImplicit false

namespace EstateSearch.Query

open Text

/-- A text in lowercase without blanks at its ends. -/
def normalPhrase (text : List Char) : List Char := lowercase (trim text)

/-- A word in lowercase, without quotes and without blanks at its ends. -/
def normalTerm (word : List Char) : List Char :=
  lowercase (trim (word.filter (· != '"')))

/-- The text up to the next quote and the text after it; none if no quote comes. -/
def upToQuote? : List Char → Option (List Char × List Char)
  | [] => none
  | c :: rest =>
    if c = '"' then some ([], rest)
    else match upToQuote? rest with
      | some (inside, after) => some (c :: inside, after)
      | none => none

theorem length_lt_of_upToQuote? {text inside after : List Char}
    (h : upToQuote? text = some (inside, after)) : after.length < text.length := by
  induction text generalizing inside with
  | nil => simp [upToQuote?] at h
  | cons c rest ih =>
    simp only [upToQuote?] at h
    split at h
    · simp only [Option.some.injEq, Prod.mk.injEq] at h
      simp [h.2]
    · split at h
      next found =>
        simp only [Option.some.injEq, Prod.mk.injEq] at h
        rw [h.2] at found
        exact Nat.lt_succ_of_lt (ih found)
      next => cases h

/-- Takes the phrases between quotes out of a text, in normal form and without the empty ones. What
is left has a space for every stretch between quotes. -/
def extractPhrases (text : List Char) : List (List Char) × List Char :=
  match text with
  | [] => ([], [])
  | c :: rest =>
    if c = '"' then
      match _ : upToQuote? rest with
      | some (inside, after) =>
        let (phrases, outside) := extractPhrases after
        let phrase := normalPhrase inside
        (if phrase.isEmpty then phrases else phrase :: phrases, ' ' :: outside)
      | none =>
        let (phrases, outside) := extractPhrases rest
        (phrases, c :: outside)
    else
      let (phrases, outside) := extractPhrases rest
      (phrases, c :: outside)
termination_by text.length
decreasing_by
  · exact Nat.lt_succ_of_lt (length_lt_of_upToQuote? ‹_›)
  · simp
  · simp

/-- What a word excludes, if it is an exclusion: it starts with a hyphen and goes on. -/
def excluded? : List Char → Option (List Char)
  | '-' :: c :: rest => some (c :: rest)
  | _ => none

/-- Is an exclusion worth keeping? Neither the empty one nor a mere hyphen is. -/
def isExclusion (term : List Char) : Bool :=
  !term.isEmpty && term != ['-']

def firstWord (text : List Char) : List Char :=
  (text.dropWhile isBlank).takeWhile fun c => !isBlank c

def afterFirstWord (text : List Char) : List Char :=
  (text.dropWhile isBlank).dropWhile fun c => !isBlank c

/-- A text is its leading blanks, its first word and what follows. -/
theorem firstWord_split (text : List Char) :
    text = text.takeWhile isBlank ++ (firstWord text ++ afterFirstWord text) := by
  rw [firstWord, afterFirstWord, List.takeWhile_append_dropWhile, List.takeWhile_append_dropWhile]

theorem length_afterFirstWord_lt {text : List Char} (h : firstWord text ≠ []) :
    (afterFirstWord text).length < text.length := by
  have whole := congrArg List.length (firstWord_split text)
  have wordLength := List.length_pos_iff.2 h
  simp only [List.length_append] at whole
  omega

/-- Takes the exclusions out of a text, in normal form and without those that are not worth keeping.
What is left has all blanks and all other words. -/
def extractExclusions (text : List Char) : List (List Char) × List Char :=
  let blanks := text.takeWhile isBlank
  if firstWord text = [] then ([], blanks)
  else
    let (exclusions, rest) := extractExclusions (afterFirstWord text)
    match excluded? (firstWord text) with
    | some suffix =>
      let term := normalTerm suffix
      (if isExclusion term then term :: exclusions else exclusions, blanks ++ rest)
    | none => (exclusions, blanks ++ firstWord text ++ rest)
termination_by text.length
decreasing_by exact length_afterFirstWord_lt ‹_›

/-- The query that a text asks for. A blank text is not looked at any further. -/
def parse (policy : TermPolicy) (text : String) : Query :=
  if isBlankText text.toList then ⟨[], [], [], text⟩
  else
    let (phrases, outside) := extractPhrases text.toList
    let (exclusions, rest) := extractExclusions outside
    { phrases := phrases.map String.ofList
      terms := ((words rest).map fun word => String.ofList (normalTerm word)).filter policy.admits
      exclusions := exclusions.map String.ofList
      typed := text }

end EstateSearch.Query
