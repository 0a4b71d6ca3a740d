import EstateSearch.Yaml.Token

/-!
# YAML nodes

A document is a tree of nodes. An alias stands for another node of the same document, which carries
the same number as its anchor.

Source: the documents of `serde_yaml_ng`.
-/

set_option autoImplicit false

namespace EstateSearch.Yaml

/-- What is written before a node. -/
structure NodeMark where
  /-- the number of its anchor -/
  anchor : Option Nat
  /-- its tag in bytes, with the handle replaced by what it stands for -/
  tag : Option (List Nat)
  deriving DecidableEq, Repr

def NodeMark.none : NodeMark := ⟨.none, .none⟩

/-- The tag that says no more than that there is none. -/
def voidTag : List Nat := ['!'.toNat]

/-- The mark of a scalar that is written, for which the void tag is no tag. -/
def NodeMark.withoutVoid (mark : NodeMark) : NodeMark :=
  { mark with tag := mark.tag.filter (· ≠ voidTag) }

/-- A node; a collection keeps its parts in the order of the text. -/
inductive Node where
  | alias (number : Nat)
  | scalar (mark : NodeMark) (style : ScalarStyle) (text : List Char)
  | sequence (mark : NodeMark) (items : List Node)
  | mapping (mark : NodeMark) (entries : List (Node × Node))
  deriving Repr

namespace Node

def empty : Node := .scalar .none .plain []

/-- Pairs a node with the number of its anchor, if it has one. -/
def numbered (mark : NodeMark) (node : Node) : List (Nat × Node) :=
  match mark.anchor with
  | some number => [(number, node)]
  | none => []

mutual

/-- The nodes with anchors in a tree by their numbers, in the order of the text. -/
def anchored : Node → List (Nat × Node)
  | .alias _ => []
  | .scalar mark style text => numbered mark (.scalar mark style text)
  | .sequence mark items => numbered mark (.sequence mark items) ++ anchoredItems items
  | .mapping mark entries => numbered mark (.mapping mark entries) ++ anchoredEntries entries

def anchoredItems : List Node → List (Nat × Node)
  | [] => []
  | item :: items => anchored item ++ anchoredItems items

def anchoredEntries : List (Node × Node) → List (Nat × Node)
  | [] => []
  | (key, value) :: entries => anchored key ++ anchored value ++ anchoredEntries entries

end

end Node

end EstateSearch.Yaml
