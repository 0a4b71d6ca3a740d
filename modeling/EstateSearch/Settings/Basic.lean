import EstateSearch.Problem
import EstateSearch.Search
import EstateSearch.TermPolicy
import EstateSearch.Text.Blank

/-!
# Search settings

The settings that an operator makes for all searches, and their defaults.

Source: `search/src/config`.
-/

set_option autoImplicit false

namespace EstateSearch

structure Settings where
  /-- words of two letters that are searched for -/
  shortWords : List String
  /-- what a term of two characters may match to be searched for -/
  shortCodePattern : String
  termMatch : TermMatch
  /-- queries with more characters are refused -/
  maxQueryChars : Nat
  deriving DecidableEq, Repr

namespace Settings

/-- The pattern of room codes: the letter t and a digit. -/
def defaultShortCode : String := "^t\\d$"

/-- The default pattern keeps to the syntax, so a policy can be made without reading it again. -/
theorem defaultShortCode_isSome : (Pattern.ofString? defaultShortCode).isSome = true := by
  decide +kernel

/-- The default pattern, read once. -/
def defaultPattern : Pattern := (Pattern.ofString? defaultShortCode).get defaultShortCode_isSome

/-- The settings without any word from the operator. -/
def initial : Settings :=
  { shortWords := ["de", "du", "en", "la", "le", "à", "au", "les", "a"]
    shortCodePattern := defaultShortCode
    termMatch := .any
    maxQueryChars := 500 }

/-- The policy for terms. A pattern other than the default may break the syntax. -/
def termPolicy (settings : Settings) : Except Problem TermPolicy :=
  if settings.shortCodePattern = defaultShortCode then
    .ok (.ofWords settings.shortWords defaultPattern)
  else
    match Pattern.ofString? settings.shortCodePattern with
    | some shortCode => .ok (.ofWords settings.shortWords shortCode)
    | none => .error (.shortCodePattern settings.shortCodePattern)

end Settings

def TermMatch.ofString (text : String) : Except Problem TermMatch :=
  match Text.lower (String.ofList (Text.trim text.toList)) with
  | "any" | "or" => .ok .any
  | "all" | "and" => .ok .all
  | _ => .error (.termMatch text)

def TermMatch.name : TermMatch → String
  | any => "any"
  | all => "all"

end EstateSearch
