import EstateSearch.Yaml.Lexer
import EstateSearch.Yaml.Node

/-!
# From YAML tokens to a document

A reader by the grammar of nodes. Nodes may be left out after most signs and are empty then. The
recursive functions count down a number; every token is looked at by at most four of them before it
is taken.
-/

set_option autoImplicit false

namespace EstateSearch.Yaml

/-- The tokens that are left, and what has been seen so far. -/
structure Reading where
  tokens : List Token
  /-- what the tag handles stand for -/
  handles : List (List Char × List Nat)
  /-- the anchors so far with their numbers, latest first -/
  anchors : List (List Char × Nat)
  deriving Repr

namespace Reading

def withTokens (r : Reading) (tokens : List Token) : Reading := { r with tokens }

/-- Gives an anchor the next number, which is the count of the names before it. -/
def withAnchor (r : Reading) (name : List Char) : Nat × Reading :=
  let number := (r.anchors.map (·.1)).eraseDups.length
  (number, { r with anchors := (name, number) :: r.anchors })

/-- The tag that a handle and a suffix make; none if the handle has not been declared. -/
def resolveTag? (r : Reading) (handle : List Char) (suffix : List Nat) : Option (List Nat) :=
  if handle.isEmpty then some suffix else (r.handles.lookup handle).map (· ++ suffix)

def takeTag? (r : Reading) : Option (Option (List Nat) × Reading) :=
  match r.tokens with
  | .tag handle suffix :: tokens =>
    (r.resolveTag? handle suffix).map fun tag => (some tag, r.withTokens tokens)
  | _ => some (none, r)

def takeAnchor (r : Reading) : Option Nat × Reading :=
  match r.tokens with
  | .anchor name :: tokens =>
    let (number, r) := r.withAnchor name
    (some number, r.withTokens tokens)
  | _ => (none, r)

/-- Reads what stands before a node: an anchor and a tag, in either order. -/
def takeMark? (r : Reading) : Option (NodeMark × Reading) := do
  let (anchor, r) := r.takeAnchor
  let (tag, r) ← r.takeTag?
  match anchor with
  | some number => return (⟨some number, tag⟩, r)
  | none =>
    if tag.isNone then return (.none, r)
    else
      let (anchor, r) := r.takeAnchor
      return (⟨anchor, tag⟩, r)

end Reading

/-- Where a node stands, which decides how collections may be written there. -/
inductive Place where
  /-- in a flow collection: only with brackets -/
  | flow
  /-- elsewhere: also as an indented block -/
  | block
  /-- in a block mapping: also as a block sequence that is not indented further -/
  | entry
  deriving DecidableEq, Repr

/-- Does a token end an entry of a block collection that has nothing in it? -/
def Token.endsBlockEntry : Token → Bool
  | .key => true
  | .value => true
  | .blockEnd => true
  | _ => false

def Token.endsFlowEntry : Token → Bool
  | .flowEntry => true
  | .flowSequenceEnd => true
  | .flowMappingEnd => true
  | _ => false

namespace Document

/-- Looks whether another part of a flow collection follows, and goes past the comma before it or
past the end of the collection. -/
def separated? (first : Bool) (close : Token) (r : Reading) : Option (Bool × Reading) :=
  match r.tokens with
  | [] => none
  | token :: tokens =>
    if token = close then some (false, r.withTokens tokens)
    else if first then some (true, r)
    else if token = .flowEntry then
      match tokens with
      | [] => none
      | next :: after =>
        if next = close then some (false, r.withTokens after)
        else some (true, r.withTokens tokens)
    else none

mutual

def takeNode? : Nat → Place → Reading → Option (Node × Reading)
  | 0, _, _ => none
  | bound + 1, place, r =>
    match r.tokens with
    | .alias name :: tokens =>
      (r.anchors.lookup name).map fun number => (.alias number, r.withTokens tokens)
    | _ => do
      let (mark, r) ← r.takeMark?
      match r.tokens with
      | .scalar style text :: tokens =>
        return (.scalar mark.withoutVoid style text, r.withTokens tokens)
      | .flowSequenceStart :: tokens => do
        let (items, r) ← takeFlowItems? bound true (r.withTokens tokens)
        return (.sequence mark items, r)
      | .flowMappingStart :: tokens => do
        let (entries, r) ← takeFlowEntries? bound true (r.withTokens tokens)
        return (.mapping mark entries, r)
      | token :: tokens =>
        if place = .entry && token = .blockEntry then do
          let (items, r) ← takeUnindentedItems? bound r
          return (.sequence mark items, r)
        else if place ≠ .flow && token = .blockSequenceStart then do
          let (items, r) ← takeBlockItems? bound (r.withTokens tokens)
          return (.sequence mark items, r)
        else if place ≠ .flow && token = .blockMappingStart then do
          let (entries, r) ← takeBlockEntries? bound (r.withTokens tokens)
          return (.mapping mark entries, r)
        else if mark = .none then none
        else return (.scalar mark .plain [], r)
      | [] => if mark = .none then none else return (.scalar mark .plain [], r)

/-- Reads a node that may be left out, which is so at the end and before some tokens. -/
def takeNodeUnless? (absent : Token → Bool) : Nat → Place → Reading → Option (Node × Reading)
  | 0, _, _ => none
  | bound + 1, place, r =>
    match r.tokens with
    | [] => some (.empty, r)
    | token :: _ => if absent token then some (.empty, r) else takeNode? bound place r

def takeBlockItems? : Nat → Reading → Option (List Node × Reading)
  | 0, _ => none
  | bound + 1, r =>
    match r.tokens with
    | .blockEntry :: tokens => do
      let absent := fun token => token = .blockEntry || token = .blockEnd
      let (item, r) ← takeNodeUnless? absent bound .block (r.withTokens tokens)
      let (items, r) ← takeBlockItems? bound r
      return (item :: items, r)
    | .blockEnd :: tokens => some ([], r.withTokens tokens)
    | _ => none

/-- Reads the items of a block sequence that is not indented further than the mapping around it; it
has no end of its own. -/
def takeUnindentedItems? : Nat → Reading → Option (List Node × Reading)
  | 0, _ => none
  | bound + 1, r =>
    match r.tokens with
    | .blockEntry :: tokens => do
      let absent := fun (token : Token) => token = .blockEntry || token.endsBlockEntry
      let (item, r) ← takeNodeUnless? absent bound .block (r.withTokens tokens)
      let (items, r) ← takeUnindentedItems? bound r
      return (item :: items, r)
    | _ => some ([], r)

def takeBlockEntries? : Nat → Reading → Option (List (Node × Node) × Reading)
  | 0, _ => none
  | bound + 1, r =>
    match r.tokens with
    | .key :: tokens => do
      let (key, r) ← takeNodeUnless? Token.endsBlockEntry bound .entry (r.withTokens tokens)
      let (value, r) ← takeValue? Token.endsBlockEntry bound .entry r
      let (entries, r) ← takeBlockEntries? bound r
      return ((key, value) :: entries, r)
    | .blockEnd :: tokens => some ([], r.withTokens tokens)
    | _ => none

/-- Reads the value of a key; it is empty where no sign for a value stands. -/
def takeValue? (absent : Token → Bool) : Nat → Place → Reading → Option (Node × Reading)
  | 0, _, _ => none
  | bound + 1, place, r =>
    match r.tokens with
    | .value :: tokens => takeNodeUnless? absent bound place (r.withTokens tokens)
    | _ => some (.empty, r)

/-- Reads the items of a flow sequence with its end. Commas stand between the items and may stand
after the last. -/
def takeFlowItems? : Nat → (first : Bool) → Reading → Option (List Node × Reading)
  | 0, _, _ => none
  | bound + 1, first, r => do
    let (more, r) ← separated? first .flowSequenceEnd r
    if more then
      let (item, r) ←
        match r.tokens with
        | .key :: tokens => takePair? bound (r.withTokens tokens)
        | _ => takeNode? bound .flow r
      let (items, r) ← takeFlowItems? bound false r
      return (item :: items, r)
    else return ([], r)

/-- Reads a single pair in a flow sequence after the sign of its key; it is a mapping of its own.
Where the key is empty, the token after its sign goes with it. -/
def takePair? : Nat → Reading → Option (Node × Reading)
  | 0, _ => none
  | bound + 1, r => do
    let (key, r) ←
      match r.tokens with
      | token :: tokens =>
        if token = .value || token = .flowEntry || token = .flowSequenceEnd then
          some (.empty, r.withTokens tokens)
        else takeNode? bound .flow r
      | [] => none
    let (value, r) ← takeValue? Token.endsFlowEntry bound .flow r
    return (.mapping .none [(key, value)], r)

/-- Reads the entries of a flow mapping with its end. Commas stand between the entries and may stand
after the last. -/
def takeFlowEntries? : Nat → (first : Bool) → Reading → Option (List (Node × Node) × Reading)
  | 0, _, _ => none
  | bound + 1, first, r => do
    let (more, r) ← separated? first .flowMappingEnd r
    if more then
      let (entry, r) ←
        match r.tokens with
        | .key :: tokens => do
          let absent := fun (token : Token) => token = .value || token.endsFlowEntry
          let (key, r) ← takeNodeUnless? absent bound .flow (r.withTokens tokens)
          let (value, r) ← takeValue? Token.endsFlowEntry bound .flow r
          some ((key, value), r)
        | _ => (takeNode? bound .flow r).map fun (key, r) => ((key, .empty), r)
      let (entries, r) ← takeFlowEntries? bound false r
      return (entry :: entries, r)
    else return ([], r)

end

/-! ### Whole streams -/

/-- What the tag handles stand for that need no declaration. -/
def initialHandles : List (List Char × List Nat) :=
  [(['!'], voidTag), (['!', '!'], "tag:yaml.org,2002:".toList.map Char.toNat)]

/-- Reads the directives before a document and gives the tag handles that they declare. The version
may be given once and must be known, and a handle may be declared once. -/
def takeDirectives? (versioned : Bool) (handles : List (List Char × List Nat)) :
    List Token → Option (List (List Char × List Nat) × List Token)
  | .version major minor :: rest =>
    if versioned || major != 1 || (minor != 1 && minor != 2) then none
    else takeDirectives? true handles rest
  | .tagDirective handle stem :: rest =>
    if (handles.lookup handle).isSome then none
    else takeDirectives? versioned ((handle, stem) :: handles) rest
  | rest => some (handles ++ initialHandles, rest)

/-- Is the token one that can only stand between documents? -/
def isBetween : Token → Bool
  | .version .. => true
  | .tagDirective .. => true
  | .documentStart => true
  | .documentEnd => true
  | _ => false

/-- The root of the only document of a stream; none if there are more or one breaks a rule. A stream
without a document has an empty root. A document with directives needs the mark for its start. -/
def root? (tokens : List Token) : Option Node := do
  let (handles, rest) ← takeDirectives? false [] tokens
  let bound := 4 * (tokens.length + 1)
  let (node, r) ←
    match rest with
    | .documentStart :: rest => takeNodeUnless? isBetween bound .block ⟨rest, handles, []⟩
    | [] => if tokens.isEmpty then some (.empty, ⟨[], handles, []⟩) else none
    | _ =>
      if rest.length < tokens.length then none else takeNode? bound .block ⟨rest, handles, []⟩
  if r.tokens.all (· = .documentEnd) then some node else none

end Document

/-- A document: its root, and the nodes that aliases stand for. -/
structure Document where
  root : Node
  /-- the nodes with anchors by their numbers -/
  anchored : List (Nat × Node)
  deriving Repr

namespace Document

/-- The document with a root. Of several nodes with one number, the last counts. -/
def ofRoot (root : Node) : Document := ⟨root, root.anchored.reverse⟩

def ofString? (text : String) : Option Document := do
  let tokens ← tokens? text.toList
  (root? tokens).map ofRoot

/-- The node that is meant by a node: an alias means another one. -/
def follow? (document : Document) : Node → Option Node
  | .alias number => document.anchored.lookup number
  | node => some node

end Document

end EstateSearch.Yaml
