import EstateSearch.Settings.Basic
import EstateSearch.Text.Utf8
import EstateSearch.Yaml.Document

/-!
# The YAML form of settings

A mapping whose keys are the names of settings. Names that are no settings are passed over with
their values, a name may not be given twice, and what is left out has its default. Texts are taken
as they are written, so a number or a null is as good a text as any other.

Source: `search/src/config`, where `serde_yaml_ng` reads the settings.
-/

set_option autoImplicit false

namespace EstateSearch

open Text Yaml

namespace Settings

/-- The node that is meant, unless it is none. -/
abbrev Meant := Node → Option Node

/-- Reads a text, which is any scalar. -/
def yamlText? (meant : Meant) (node : Node) : Option String :=
  match meant node with
  | some (.scalar _ _ text) => some (String.ofList text)
  | _ => none

/-- Reads a list of texts; where nothing is written the list is empty. -/
def yamlWords? (meant : Meant) (node : Node) : Option (List String) :=
  match meant node with
  | some (.sequence _ items) => items.mapM (yamlText? meant)
  | some (.scalar _ .plain []) => some []
  | _ => none

def based? : List Char → Option (Nat × List Char)
  | '0' :: 'x' :: digits => some (16, digits)
  | '0' :: 'o' :: digits => some (8, digits)
  | '0' :: 'b' :: digits => some (2, digits)
  | _ => none

/-- The value of digits in a base; there must be one at least. -/
def digitsValue? (base : Nat) (digits : List Char) : Option Nat :=
  if digits.isEmpty then none
  else
    digits.foldlM (fun value c => do
      let d ← hexValue? c
      if d < base then some (value * base + d) else none) 0

/-- The value of a number. Its decimal form does not begin with 0 unless it is 0. -/
def yamlNumber? (text : List Char) : Option Nat :=
  let unsigned :=
    match text with
    | '+' :: rest => rest
    | text => text
  match based? unsigned with
  | some (base, digits) => digitsValue? base digits
  | none =>
    match unsigned with
    | '0' :: _ :: _ => none
    | digits => digitsValue? 10 digits

def integerTag : List Nat := "tag:yaml.org,2002:int".toList.map Char.toNat

/-- May a scalar be a number? A plain one may, and with the tag of integers a literal block. -/
def mayBeNumber (mark : NodeMark) (style : ScalarStyle) : Bool :=
  style = .plain || (style = .literal && mark.tag == some integerTag)

def yamlCount? (meant : Meant) (node : Node) : Option Nat :=
  match meant node with
  | some (.scalar mark style text) => do
    let n ← yamlNumber? text
    if mayBeNumber mark style && n < UInt64.size then some n else none
  | _ => none

def nullTexts : List String := ["", "~", "null", "Null", "NULL"]

def termMatchNamed? : List Char → Option TermMatch
  | ['a', 'n', 'y'] => some .any
  | ['a', 'l', 'l'] => some .all
  | _ => none

/-- The name that a tag gives after its exclamation mark; none if it has no such mark, or if its
bytes are no UTF-8. -/
def tagName? (mark : NodeMark) : Option (List Char) :=
  match mark.tag with
  | some (first :: bytes) => if first = '!'.toNat then charsOfUtf8? bytes else none
  | _ => none

/-- Reads a way to match terms: a scalar with its name, or nothing but its name as a tag. -/
def yamlTermMatch? (meant : Meant) (node : Node) : Option TermMatch :=
  match meant node with
  | some (.scalar mark style text) =>
    match tagName? mark with
    | some name => do
      let found ← termMatchNamed? name
      if style = .plain && nullTexts.contains (String.ofList text) then some found else none
    | none => termMatchNamed? text
  | _ => none

def yamlSetting? (meant : Meant) (entry : Node × Node) : Option (String × Node) :=
  (yamlText? meant entry.1).map fun name => (name, entry.2)

/-- The value of a setting, if it is given; none if it is given twice or wrongly. -/
def yamlField? {α : Type} (entries : List (String × Node)) (name : String) (initial : α)
    (read? : Node → Option α) : Option α :=
  match entries.filter fun entry => entry.1 == name with
  | [] => some initial
  | [(_, node)] => read? node
  | _ => none

def ofYamlMapping? (meant : Meant) (entries : List (Node × Node)) : Option Settings := do
  let entries ← entries.mapM (yamlSetting? meant)
  let shortWords ← yamlField? entries "short_words" initial.shortWords (yamlWords? meant)
  let shortCodePattern ←
    yamlField? entries "short_code_pattern" initial.shortCodePattern (yamlText? meant)
  let termMatch ← yamlField? entries "term_match" initial.termMatch (yamlTermMatch? meant)
  let maxQueryChars ← yamlField? entries "max_query_chars" initial.maxQueryChars (yamlCount? meant)
  return { shortWords, shortCodePattern, termMatch, maxQueryChars }

def ofYaml? (text : String) : Option Settings := do
  let document ← Document.ofString? text
  match document.follow? document.root with
  | some (.mapping _ entries) => ofYamlMapping? document.follow? entries
  | some (.scalar _ .plain []) => some initial
  | _ => none

end Settings

end EstateSearch
