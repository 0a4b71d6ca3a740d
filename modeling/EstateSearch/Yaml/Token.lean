/-!
# YAML tokens
-/

set_option autoImplicit false

namespace EstateSearch.Yaml

inductive ScalarStyle where
  | plain
  | singleQuoted
  | doubleQuoted
  /-- a block of lines that keeps its line breaks -/
  | literal
  /-- a block of lines of which single line breaks stand for spaces -/
  | folded
  deriving DecidableEq, Repr

/-- A token of a stream. The indentation of blocks has become tokens of its own. -/
inductive Token where
  | version (major minor : Nat)
  /-- what a tag handle stands for, in bytes -/
  | tagDirective (handle : List Char) (stem : List Nat)
  | documentStart
  | documentEnd
  | blockSequenceStart
  | blockMappingStart
  | blockEnd
  | flowSequenceStart
  | flowSequenceEnd
  | flowMappingStart
  | flowMappingEnd
  | blockEntry
  | flowEntry
  | key
  | value
  | alias (name : List Char)
  | anchor (name : List Char)
  /-- a tag, of which the part after the handle is given in bytes -/
  | tag (handle : List Char) (suffix : List Nat)
  | scalar (style : ScalarStyle) (text : List Char)
  deriving DecidableEq, Repr

end EstateSearch.Yaml
