import EstateSearch.Condition.Basic

/-!
# Written conditions

The text of a condition for a reader: groups in parentheses, needles and texts between quotes.

Source: `search/src/predicate/types`.
-/

set_option autoImplicit false

namespace EstateSearch.Condition

mutual

def display : Condition → String
  | always => "TRUE"
  | all [] => "TRUE"
  | any [] => "TRUE"
  | all members => "(" ++ " AND ".intercalate (displayEach members) ++ ")"
  | any members => "(" ++ " OR ".intercalate (displayEach members) ++ ")"
  | not condition => "NOT " ++ display condition
  | contains field needle => field.column ++ " CONTAINS \"" ++ needle ++ "\""
  | compare comparison field value =>
    field.column ++ " " ++ comparison.sign ++ " " ++ value.display

def displayEach : List Condition → List String
  | [] => []
  | member :: others => display member :: displayEach others

end

end EstateSearch.Condition
