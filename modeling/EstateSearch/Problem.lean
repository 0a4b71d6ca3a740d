import EstateSearch.Decimal.Digits
import EstateSearch.Value

/-!
# What can go wrong

Every reason why a search or a command is refused, and the one message for each. The reader of a
query and the making of a condition never fail; only input from outside can be refused.

Source: the messages of `search/src/config`, `search/src/criteria`, `search/src/validation` and
`cli/src/commands`.
-/

set_option autoImplicit false

namespace EstateSearch

inductive FileProblem where
  | unreadable
  | malformed
  deriving DecidableEq, Repr

/-- A reason for refusing some input. -/
inductive Problem where
  /-- criteria for properties that are not what they should be -/
  | propertyCriteria
  /-- criteria for users that are not what they should be -/
  | userCriteria
  /-- settings that are not what they should be -/
  | settingsText
  /-- settings in a file -/
  | settingsFile (path : String) (cause : FileProblem)
  /-- a pattern for short codes that breaks the syntax -/
  | shortCodePattern (source : String)
  /-- a way to match terms that does not exist -/
  | termMatch (text : String)
  | queryTooLong (length limit : Nat)
  | notFinite (criterion : String)
  | negative (criterion : String)
  /-- a least number above the greatest -/
  | numbersReversed (least greatest : String) (low high : Binary64)
  /-- an earliest instant after the latest -/
  | instantsReversed (earliest latest : String) (first last : Instant)
  /-- a file of records that cannot be read -/
  | recordsUnreadable (path : String)
  /-- a file of records that are not what they should be -/
  | recordsText (path : String)
  deriving DecidableEq, Repr

def Problem.message : Problem → String
  | propertyCriteria => "Failed to parse filter criteria JSON"
  | userCriteria => "Failed to parse user filter criteria JSON"
  | settingsText => "Failed to parse search configuration YAML"
  | settingsFile path _ => "Failed to load search configuration from " ++ path
  | shortCodePattern source => "Invalid short code pattern: " ++ source
  | termMatch text => "Invalid term match policy: " ++ text
  | queryTooLong length limit =>
    "Search query is too long (" ++ Decimal.natText length ++ " characters, max " ++
      Decimal.natText limit ++ ")"
  | notFinite criterion => criterion ++ " must be a finite number"
  | negative criterion => criterion ++ " cannot be negative"
  | numbersReversed least greatest low high =>
    least ++ " (" ++ Value.numberText low ++ ") is greater than " ++ greatest ++ " (" ++
      Value.numberText high ++ ")"
  | instantsReversed earliest latest first last =>
    earliest ++ " (" ++ first.text ++ ") is later than " ++ latest ++ " (" ++ last.text ++ ")"
  | recordsUnreadable path => "Cannot read " ++ path
  | recordsText path => "Invalid property list in " ++ path

end EstateSearch
