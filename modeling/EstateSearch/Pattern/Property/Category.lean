import EstateSearch.Pattern.CharSet

/-!
# General categories by their names

The sets behind names such as `L` or `Uppercase_Letter`. Names are given in their loose form:
lowercase and without separators.
-/

set_option autoImplicit false

namespace EstateSearch.Pattern

open Text

/-- The categories of a letter, digit or other group, by its first letter. -/
def categoryGroup (letter : Char) : List Category :=
  Category.all.filter fun category => category.major == letter

def categoryNames : List (List String × List Category) :=
  [(["l", "letter"], categoryGroup 'L'),
    (["lc", "casedletter"], [.Lu, .Ll, .Lt]),
    (["lu", "uppercaseletter"], [.Lu]),
    (["ll", "lowercaseletter"], [.Ll]),
    (["lt", "titlecaseletter"], [.Lt]),
    (["lm", "modifierletter"], [.Lm]),
    (["lo", "otherletter"], [.Lo]),
    (["m", "mark", "combiningmark"], categoryGroup 'M'),
    (["mn", "nonspacingmark"], [.Mn]),
    (["mc", "spacingmark"], [.Mc]),
    (["me", "enclosingmark"], [.Me]),
    (["n", "number"], categoryGroup 'N'),
    (["nd", "decimalnumber", "digit"], [.Nd]),
    (["nl", "letternumber"], [.Nl]),
    (["no", "othernumber"], [.No]),
    (["p", "punctuation", "punct"], categoryGroup 'P'),
    (["pc", "connectorpunctuation"], [.Pc]),
    (["pd", "dashpunctuation"], [.Pd]),
    (["ps", "openpunctuation"], [.Ps]),
    (["pe", "closepunctuation"], [.Pe]),
    (["pi", "initialpunctuation"], [.Pi]),
    (["pf", "finalpunctuation"], [.Pf]),
    (["po", "otherpunctuation"], [.Po]),
    (["s", "symbol"], categoryGroup 'S'),
    (["sm", "mathsymbol"], [.Sm]),
    (["sc", "currencysymbol"], [.Sc]),
    (["sk", "modifiersymbol"], [.Sk]),
    (["so", "othersymbol"], [.So]),
    (["z", "separator"], categoryGroup 'Z'),
    (["zs", "spaceseparator"], [.Zs]),
    (["zl", "lineseparator"], [.Zl]),
    (["zp", "paragraphseparator"], [.Zp]),
    (["c", "other"], categoryGroup 'C'),
    (["cc", "control", "cntrl"], [.Cc]),
    (["cf", "format"], [.Cf]),
    (["co", "privateuse"], [.Co]),
    (["cn", "unassigned"], [.Cn])]

/-- The set of a general category or a group of them, or one of three names that are used like
categories. -/
def categorySet? (name : String) : Option CharSet :=
  match name with
  | "any" => some CharSet.everything
  | "ascii" => some (.range 0 0x7F)
  | "assigned" => some (.complement (.categories [.Cn]))
  | name => (categoryNames.find? fun entry => entry.1.contains name).map (.categories ·.2)

end EstateSearch.Pattern
