import EstateSearch.Yaml.Mark

/-!
# From a YAML stream to its tokens

The lexer turns indentation into tokens: a block opens where a key or an entry stands further right
than the block around it, and closes where something stands further left. That a scalar, a
collection or an alias was a key is known only at the colon after it, so the place of every possible
key is kept, one for each level of flow collections, and the token for it is put in later.
-/

set_option autoImplicit false

namespace EstateSearch.Yaml

open Source

structure KeyPlace where
  /-- must it be a key, as nothing else could stand there? -/
  required : Bool
  /-- the number of tokens before it -/
  position : Nat
  index : Nat
  line : Nat
  column : Nat
  deriving DecidableEq, Repr

structure Lexer where
  /-- the column of the innermost block, -1 outside of all -/
  indent : Int
  /-- the columns of the blocks around it -/
  outer : List Int
  /-- may a key start here? -/
  keyAllowed : Bool
  /-- the possible keys, innermost level first -/
  keys : List (Option KeyPlace)
  /-- the tokens so far, latest first -/
  tokens : List Token
  deriving Repr

namespace Lexer

def initial : Lexer := ⟨-1, [], true, [none], []⟩

def inFlow (s : Lexer) : Bool := 1 < s.keys.length

def emit (s : Lexer) (token : Token) : Lexer := { s with tokens := token :: s.tokens }

def insert (s : Lexer) (position : Nat) (token : Token) : Lexer :=
  { s with tokens := s.tokens.insertIdx (s.tokens.length - position) token }

def allowKey (s : Lexer) (allowed : Bool) : Lexer := { s with keyAllowed := allowed }

def closeBlocks (s : Lexer) (column : Int) : Lexer :=
  let (indent, outer, tokens) := go column s.indent s.outer s.tokens
  { s with indent, outer, tokens }
where
  /-- The loop: the innermost block, those around it, and the tokens. -/
  go (column indent : Int) : List Int → List Token → Int × List Int × List Token
    | [], tokens => (indent, [], tokens)
    | around :: others, tokens =>
      if column < indent then go column around others (.blockEnd :: tokens)
      else (indent, around :: others, tokens)

/-- Closes the blocks that a column lies left of; flow collections pay no heed to columns. -/
def unroll (s : Lexer) (column : Int) : Lexer := if s.inFlow then s else s.closeBlocks column

/-- Opens a block at a column that lies right of the innermost block, with the token for it after
the first `position` tokens. -/
def roll (s : Lexer) (column position : Nat) (token : Token) : Lexer :=
  if !s.inFlow && s.indent < column then
    insert { s with indent := column, outer := s.indent :: s.outer } position token
  else s

/-- Gives up the possible key of the innermost level; none if it had to be a key. -/
def dropKey? (s : Lexer) : Option Lexer :=
  match s.keys with
  | some place :: others =>
    if place.required then none else some { s with keys := none :: others }
  | _ => some s

def saveKey? (s : Lexer) (p : Placed) : Option Lexer :=
  if s.keyAllowed then do
    let required := !s.inFlow && s.indent == (p.column : Int)
    let place : KeyPlace := ⟨required, s.tokens.length, p.index, p.line, p.column⟩
    let s ← s.dropKey?
    return { s with keys := some place :: s.keys.drop 1 }
  else some s

def maxKeyLength : Nat := 1024

/-- Is a possible key on an earlier line than the place, or too long before it? -/
def KeyPlace.isStale (place : KeyPlace) (p : Placed) : Bool :=
  place.line < p.line || place.index + maxKeyLength < p.index

/-- Gives up all possible keys that are too far back; none if one of them had to be a key. -/
def dropStaleKeys? (s : Lexer) (p : Placed) : Option Lexer := do
  let keys ← s.keys.mapM fun key =>
    match key with
    | some place =>
      if KeyPlace.isStale place p then (if place.required then none else some none)
      else some (some place)
    | none => some none
  return { s with keys }

/-- Goes past blanks, line breaks, comments and byte order marks at the start of lines. Outside of
flow collections a key may start on every new line, and tabs count as blanks only where none may. -/
def skipToToken (inFlow : Bool) : (allowed comment : Bool) → Source → Bool × Source
  | allowed, _, [] => (allowed, [])
  | allowed, comment, p :: rest =>
    if isBreak p.char then skipToToken inFlow (allowed || !inFlow) false rest
    else if p.isByteOrderMark then skipToToken inFlow allowed false rest
    else if comment then skipToToken inFlow allowed true rest
    else if p.char == ' ' || (p.char == '\t' && (inFlow || !allowed)) then
      skipToToken inFlow allowed false rest
    else if p.char == '#' then skipToToken inFlow allowed true rest
    else (allowed, p :: rest)

/-- A directive or a mark between documents, which closes all blocks. -/
def addDocumentToken? (s : Lexer) (token : Token) : Option Lexer := do
  let s ← (s.unroll (-1)).dropKey?
  return (s.allowKey false).emit token

def openFlow? (s : Lexer) (p : Placed) (token : Token) : Option Lexer := do
  let s ← s.saveKey? p
  return (allowKey { s with keys := none :: s.keys } true).emit token

def closeFlow? (s : Lexer) (token : Token) : Option Lexer := do
  let s ← s.dropKey?
  let keys := if s.inFlow then s.keys.drop 1 else s.keys
  return (allowKey { s with keys } false).emit token

def addBlockEntry? (s : Lexer) (p : Placed) : Option Lexer :=
  if !s.inFlow && !s.keyAllowed then none
  else do
    let s ← (s.roll p.column s.tokens.length .blockSequenceStart).dropKey?
    return (s.allowKey true).emit .blockEntry

def addKey? (s : Lexer) (p : Placed) : Option Lexer :=
  if !s.inFlow && !s.keyAllowed then none
  else do
    let s ← (s.roll p.column s.tokens.length .blockMappingStart).dropKey?
    return (s.allowKey (!s.inFlow)).emit .key

/-- The colon before a value. If a possible key comes before it, that becomes a key. -/
def addValue? (s : Lexer) (p : Placed) : Option Lexer :=
  match s.keys with
  | some place :: others =>
    let s := s.insert place.position .key
    let s := s.roll place.column place.position .blockMappingStart
    some ((allowKey { s with keys := none :: others } false).emit .value)
  | _ =>
    if !s.inFlow && !s.keyAllowed then none
    else
      let s := s.roll p.column s.tokens.length .blockMappingStart
      some ((s.allowKey (!s.inFlow)).emit .value)

def addNode? (s : Lexer) (p : Placed) (token : Token) : Option Lexer := do
  let s ← s.saveKey? p
  return (s.allowKey false).emit token

def addBlock? (s : Lexer) (token : Token) : Option Lexer := do
  let s ← s.dropKey?
  return (s.allowKey true).emit token

def finish? (s : Lexer) : Option (List Token) := do
  if s.keys.any fun key => key.any (·.required) then none
  else return (s.unroll (-1)).tokens.reverse

def startsPlain (inFlow : Bool) (c : Char) (rest : Source) : Bool :=
  if c == '-' then !(peek 1 rest).any isBlank
  else if c == '?' || c == ':' then !inFlow && !atGap rest
  else !(isBlank c || isBreak c || ",[]\x7b\x7d#&*!|>'\"%@\x60".toList.contains c)

def step? (s : Lexer) (p : Placed) (rest : Source) : Option (Lexer × Source) :=
  let source : Source := p :: rest
  let signed (step : Option Lexer) : Option (Lexer × Source) := step.map fun s => (s, rest)
  if p.column == 0 && p.char == '%' then do
    let (token, after) ← takeDirective? rest
    let s ← s.addDocumentToken? token
    return (s, after)
  else if source.atDocumentMark then do
    let s ← s.addDocumentToken? (if p.char == '-' then .documentStart else .documentEnd)
    return (s, source.drop 3)
  else if p.char == '[' then signed (s.openFlow? p .flowSequenceStart)
  else if p.char == '{' then signed (s.openFlow? p .flowMappingStart)
  else if p.char == ']' then signed (s.closeFlow? .flowSequenceEnd)
  else if p.char == '}' then signed (s.closeFlow? .flowMappingEnd)
  else if p.char == ',' then do
    let s ← s.dropKey?
    return ((s.allowKey true).emit .flowEntry, rest)
  else if p.char == '-' && atGap rest then signed (s.addBlockEntry? p)
  else if p.char == '?' && (s.inFlow || atGap rest) then signed (s.addKey? p)
  else if p.char == ':' && (s.inFlow || atGap rest) then signed (s.addValue? p)
  else if p.char == '*' then do
    let (name, after) ← takeAnchor? rest
    let s ← s.addNode? p (.alias name)
    return (s, after)
  else if p.char == '&' then do
    let (name, after) ← takeAnchor? rest
    let s ← s.addNode? p (.anchor name)
    return (s, after)
  else if p.char == '!' then do
    let (token, after) ← takeTag? s.inFlow rest
    let s ← s.addNode? p token
    return (s, after)
  else if (p.char == '|' || p.char == '>') && !s.inFlow then do
    let (text, after) ← takeBlock? (p.char == '>') s.indent rest
    let s ← s.addBlock? (.scalar (if p.char == '>' then .folded else .literal) text)
    return (s, after)
  else if p.char == '\'' || p.char == '"' then do
    let (text, after) ← takeQuoted? p.char (rest.length + 1) rest
    let style := if p.char == '"' then ScalarStyle.doubleQuoted else .singleQuoted
    let s ← s.addNode? p (.scalar style text)
    return (s, after)
  else if startsPlain s.inFlow p.char rest then do
    let indent := (s.indent + 1).toNat
    let (text, broken, after) ← takePlain? s.inFlow indent (rest.length + 2) [] [] false source
    let s ← s.addNode? p (.scalar .plain text)
    return (s.allowKey (s.keyAllowed || broken), after)
  else none

/-- Reads the tokens from a place on; every token takes at least one character. -/
def run? : Nat → Lexer → Source → Option (List Token)
  | 0, _, _ => none
  | bound + 1, s, source =>
    match skipToToken s.inFlow s.keyAllowed false source with
    | (_, []) => s.finish?
    | (allowed, p :: rest) => do
      let s ← (s.allowKey allowed).dropStaleKeys? p
      let (s, after) ← (s.unroll p.column).step? p rest
      run? bound s after

end Lexer

def tokens? (text : List Char) : Option (List Token) := do
  let source ← Source.ofText? text
  Lexer.run? (source.length + 1) .initial source

end EstateSearch.Yaml
