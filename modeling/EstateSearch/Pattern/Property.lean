import EstateSearch.Pattern.Property.Break
import EstateSearch.Pattern.Property.Category
import EstateSearch.Pattern.Property.Script
import EstateSearch.Pattern.Syntax
import EstateSearch.Text.Age

/-!
# Named properties of characters

The sets behind names such as `L`, `Uppercase_Letter`, `Greek` or `script=Latin`. Names are
compared without case, blanks, underscores, hyphens and a leading `is`. A name on its own is looked
up among the properties that are true or false, then the general categories, then the scripts; a few
short names that would be ambiguous are never properties.
-/

set_option autoImplicit false

namespace EstateSearch.Pattern

open Text

/-- The form of a name that is compared: lowercase ASCII without separators and without a leading
`is`. The one name that would be reduced to a single `c` in this way keeps its beginning. -/
def looseName (name : List Char) : String :=
  let kept (cs : List Char) : List Char :=
    (cs.filter fun c => c.toNat < 128 && c != ' ' && c != '_' && c != '-').map Char.toLower
  match name with
  | a :: b :: rest =>
    if (a = 'i' || a = 'I') && (b = 's' || b = 'S') then
      let short := kept rest
      if short == ['c'] then "isc" else String.ofList short
    else String.ofList (kept name)
  | _ => String.ofList (kept name)

def namedSet? (name : String) : Option CharSet :=
  let property := if ["cf", "sc", "lc"].contains name then none else propertySet? name
  property <|> categorySet? name <|> scriptSet? name

/-- The set of the characters whose property has a value. For the age, these are the characters that
are as old as that or older. -/
def valuedSet? (property value : String) : Option CharSet :=
  match property with
  | "generalcategory" | "gc" => categorySet? value
  | "script" | "sc" => scriptSet? value
  | "scriptextensions" | "scx" => extensionSet? value
  | "age" => (Age.ranges? value).map .ranges
  | "graphemeclusterbreak" | "gcb" => graphemeBreakSet? value
  | "wordbreak" | "wb" => wordBreakSet? value
  | "sentencebreak" | "sb" => sentenceBreakSet? value
  | _ => none

/-- The set that the name of a property stands for, if it stands for one. -/
def PropertyName.set? : PropertyName → Option CharSet
  | .plain name => namedSet? (looseName name)
  | .valued property value => valuedSet? (looseName property) (looseName value)

end EstateSearch.Pattern
