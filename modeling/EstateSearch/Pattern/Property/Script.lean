import EstateSearch.Pattern.CharSet
import EstateSearch.Text.Script.Shared
import EstateSearch.Text.Script.Table

/-!
# Scripts by their names

A script is the set of the characters that belong to it. The extension of a script has in addition
the characters that it shares with other scripts; the two scripts that are none, those of common and
of inherited characters, lose such characters instead.
-/

set_option autoImplicit false

namespace EstateSearch.Pattern

open Text

def scriptSet? (name : String) : Option CharSet :=
  (NamedSet.find? Script.table name).map (.ranges ·.ranges)

def sharedByAny : CharSet := .ranges (Script.shared.flatMap NamedSet.ranges)

def extensionSet? (name : String) : Option CharSet :=
  (NamedSet.find? Script.table name).map fun script =>
    let own : CharSet := .ranges script.ranges
    if script.names.contains "common" || script.names.contains "inherited" then
      .difference own sharedByAny
    else
      match Script.shared.find? fun other => other.names.any script.names.contains with
      | some other => .union own (.ranges other.ranges)
      | none => own

end EstateSearch.Pattern
