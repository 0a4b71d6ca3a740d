import EstateSearch.Json.Fields
import EstateSearch.Json.Printer
import EstateSearch.Settings.Basic

/-!
# The JSON form of settings

Source: `search/src/config`.
-/

set_option autoImplicit false

namespace EstateSearch

open Json

/-- Reads a way to match terms: its name, or an object with its name as the only key and null as
the value. -/
def TermMatch.ofJson? : Json → Option TermMatch
  | string (some "any") => some any
  | string (some "all") => some all
  | object [(some "any", null)] => some any
  | object [(some "all", null)] => some all
  | _ => none

namespace Settings

def fieldNames : List String :=
  ["short_words", "short_code_pattern", "term_match", "max_query_chars"]

def toJson (settings : Settings) : Json :=
  ofFields
    [("short_words", array (settings.shortWords.map ofText)),
      ("short_code_pattern", ofText settings.shortCodePattern),
      ("term_match", ofText settings.termMatch.name),
      ("max_query_chars", ofNat settings.maxQueryChars)]

def readWords? : Json → Option (List String)
  | array items => items.mapM readText?
  | _ => none

def readCount? : Json → Option Nat
  | number value => do
    let i ← integer? value
    if 0 ≤ i && i < UInt64.size then some i.toNat else none
  | _ => none

/-- The settings that a JSON value describes; what it leaves out has its default. -/
def ofJson? (value : Json) : Option Settings := do
  let fields ← fields? fieldNames value
  let shortWords ← fields.withDefault? "short_words" initial.shortWords readWords?
  let shortCodePattern ←
    fields.withDefault? "short_code_pattern" initial.shortCodePattern readText?
  let termMatch ← fields.withDefault? "term_match" initial.termMatch TermMatch.ofJson?
  let maxQueryChars ← fields.withDefault? "max_query_chars" initial.maxQueryChars readCount?
  return { shortWords, shortCodePattern, termMatch, maxQueryChars }

end Settings

end EstateSearch
