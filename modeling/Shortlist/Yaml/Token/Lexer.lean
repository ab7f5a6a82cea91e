import Shortlist.Yaml.Token.Scalar

/-!
# Cutting a text into tokens

The lexer goes through the text once.  It keeps the columns of the open blocks, the number of open
flow collections, and for each of these the token that may turn out to be a key.  A key is on
one line and has at most 1024 characters; where a block asks for a key, the colon must come.

A text with a fault gives the tokens that are certain, together with the fault: a token that may
still become a key is not certain, and neither are those after it.
-/

namespace Shortlist.Yaml

/-- A token that may turn out to be a key: its number and its place. -/
structure PossibleKey where
  number : Nat
  required : Bool
  index : Nat
  line : Nat
  column : Nat

/-- The state of the lexer.  It holds `count` tokens, the last one first.  `flow` is the number of
flow collections that are open; it falls below zero at a bracket that closes nothing. -/
structure Lexer where
  cursor : Cursor
  tokens : List Token := []
  count : Nat := 0
  flow : Int := 0
  indent : Int := -1
  indents : List Int := []
  keyAllowed : Bool := true
  keys : List (Int × PossibleKey) := []
  finished : Bool := false

/-- The greatest distance between the beginning of a key and its colon. -/
def keyLimit : Nat := 1024

namespace Lexer

/-- Whether the text stands inside a flow collection. -/
def inFlow (l : Lexer) : Bool := l.flow ≠ 0

/-- The lexer with a token at the end. -/
def push (l : Lexer) (t : Token) : Lexer := { l with tokens := t :: l.tokens, count := l.count + 1 }

/-- The lexer with a token in front of the one of the given number. -/
def insert (l : Lexer) (number : Nat) (t : Token) : Lexer :=
  { l with tokens := l.tokens.insertIdx (l.count - number) t, count := l.count + 1 }

/-- The lexer after the next `n` characters. -/
def advance (l : Lexer) (n : Nat) : Lexer := { l with cursor := l.cursor.advance n }

/-- Whether a token can no longer be a key. -/
def isStale (l : Lexer) (k : PossibleKey) : Bool :=
  k.line ≠ l.cursor.line || keyLimit < l.cursor.index - k.index

/-- Gives up the keys that are no longer possible. -/
def dropStale (l : Lexer) : Except Fault Lexer :=
  if l.keys.any fun k => l.isStale k.2 && k.2.required then .error .token
  else .ok { l with keys := l.keys.filter fun k => !l.isStale k.2 }

/-- Gives up the possible key of the current collection. -/
def dropKey (l : Lexer) : Except Fault Lexer :=
  if l.keys.any fun k => k.1 = l.flow && k.2.required then .error .token
  else .ok { l with keys := l.keys.filter fun k => k.1 ≠ l.flow }

/-- Notes that the next token may be a key. -/
def saveKey (l : Lexer) : Except Fault Lexer :=
  if !l.keyAllowed then .ok l
  else do
    let required := !l.inFlow && l.indent = l.cursor.column
    let l ← l.dropKey
    let key : PossibleKey :=
      ⟨l.count, required, l.cursor.index, l.cursor.line, l.cursor.column⟩
    return { l with keys := (l.flow, key) :: l.keys }

/-- Closes the blocks that are indented beyond a column. -/
def closeBlocks (column : Int) : List Int → Lexer → Lexer
  | [], l => l
  | outer :: rest, l =>
    if column < l.indent then
      closeBlocks column rest { l.push .blockEnd with indent := outer, indents := rest }
    else l

/-- Closes the blocks that are indented beyond a column, outside of flow collections. -/
def unwind (l : Lexer) (column : Int) : Lexer :=
  if l.inFlow then l else closeBlocks column l.indents l

/-- Opens a block at a column, if it is indented beyond the current one.  The token that begins the
block is put in front of the token of the given number. -/
def openBlock (l : Lexer) (column : Nat) (number : Nat) (start : Token) : Lexer :=
  if l.indent < column then
    { l.insert number start with indents := l.indent :: l.indents, indent := column }
  else l

/-- Opens a block in front of the next token. -/
def openBlockHere (l : Lexer) (start : Token) : Lexer :=
  l.openBlock l.cursor.column l.count start

/-- The place after spaces, comments and line ends, and whether a line end was among them or met
before.  `fuel` bounds the number of lines. -/
def skipBlanks : Nat → Bool → Cursor → Bool × Cursor
  | 0, newLine, c => (newLine, c)
  | fuel + 1, newLine, c =>
    let c := c.skipComment
    if c.next?.any isBreak then skipBlanks fuel true c.lineEnd.2 else (newLine, c)

/-- Goes to the next token.  After a line end outside of flow collections a key may come. -/
def toNextToken (l : Lexer) : Lexer :=
  let c := l.cursor
  let c := if c.index = 0 && c.next?.any isByteOrderMark then c.step else c
  let (newLine, c) := skipBlanks (c.size + 1) false c
  { l with cursor := c, keyAllowed := l.keyAllowed || (newLine && !l.inFlow) }

/-! ## Tokens -/

/-- The end of the text. -/
def fetchEnd (l : Lexer) : Except Fault Lexer := do
  let l ← (l.unwind (-1)).dropKey
  return { l.push .streamEnd with keyAllowed := false, keys := [], finished := true }

/-- A directive. -/
def fetchDirective (l : Lexer) : Except Fault Lexer := do
  let l ← (l.unwind (-1)).dropKey
  let (token, cursor) ← scanDirective l.cursor
  return { l.push token with cursor, keyAllowed := false }

/-- A mark at the beginning or end of a document. -/
def fetchDocumentMark (l : Lexer) (token : Token) : Except Fault Lexer := do
  let l ← (l.unwind (-1)).dropKey
  return { (l.push token).advance 3 with keyAllowed := false }

/-- The beginning of a flow collection. -/
def fetchFlowStart (l : Lexer) (token : Token) : Except Fault Lexer := do
  let l ← l.saveKey
  return { (l.push token).advance 1 with flow := l.flow + 1, keyAllowed := true }

/-- The end of a flow collection. -/
def fetchFlowEnd (l : Lexer) (token : Token) : Except Fault Lexer := do
  let l ← l.dropKey
  return { (l.push token).advance 1 with flow := l.flow - 1, keyAllowed := false }

/-- A comma between the entries of a flow collection. -/
def fetchFlowEntry (l : Lexer) : Except Fault Lexer := do
  let l ← l.dropKey
  return { (l.push .flowEntry).advance 1 with keyAllowed := true }

/-- The dash of an entry of a block. -/
def fetchBlockEntry (l : Lexer) : Except Fault Lexer := do
  if !l.inFlow && !l.keyAllowed then noToken
  let l := if l.inFlow then l else l.openBlockHere .blockSequenceStart
  let l ← l.dropKey
  return { (l.push .blockEntry).advance 1 with keyAllowed := true }

/-- The question mark of a key. -/
def fetchKey (l : Lexer) : Except Fault Lexer := do
  if !l.inFlow && !l.keyAllowed then noToken
  let l := if l.inFlow then l else l.openBlockHere .blockMappingStart
  let l ← l.dropKey
  return { (l.push .key).advance 1 with keyAllowed := !l.inFlow }

/-- The colon of a value.  If a token before it may be a key, it now is one. -/
def fetchValue (l : Lexer) : Except Fault Lexer := do
  match l.keys.find? fun k => k.1 = l.flow with
  | some (_, key) =>
    let l := { l.insert key.number .key with keys := l.keys.filter fun k => k.1 ≠ l.flow }
    let l := if l.inFlow then l else l.openBlock key.column key.number .blockMappingStart
    return { (l.push .value).advance 1 with keyAllowed := false }
  | none =>
    if !l.inFlow && !l.keyAllowed then noToken
    let l := if l.inFlow then l else l.openBlockHere .blockMappingStart
    let l ← l.dropKey
    return { (l.push .value).advance 1 with keyAllowed := !l.inFlow }

/-- An anchor or an alias. -/
def fetchAnchor (l : Lexer) (token : String → Token) : Except Fault Lexer := do
  let l ← l.saveKey
  let (name, cursor) ← scanAnchorName l.cursor
  return { l.push (token name) with cursor, keyAllowed := false }

/-- A tag. -/
def fetchTag (l : Lexer) : Except Fault Lexer := do
  let l ← l.saveKey
  let (token, cursor) ← scanTag l.cursor
  return { l.push token with cursor, keyAllowed := false }

/-- Where a scalar stands. -/
def place (l : Lexer) : Place := ⟨l.inFlow, l.indent + 1⟩

/-- A block scalar. -/
def fetchBlockScalar (l : Lexer) (folded : Bool) : Except Fault Lexer := do
  let l ← l.dropKey
  let (token, cursor) ← scanBlock folded l.place l.cursor
  return { l.push token with cursor, keyAllowed := true }

/-- A scalar in quotes. -/
def fetchQuoted (l : Lexer) (double : Bool) : Except Fault Lexer := do
  let l ← l.saveKey
  let (token, cursor) ← scanQuoted double l.cursor
  return { l.push token with cursor, keyAllowed := false }

/-- A plain scalar. -/
def fetchPlain (l : Lexer) : Except Fault Lexer := do
  let l ← l.saveKey
  let (token, newLine, cursor) ← scanPlain l.place l.cursor
  return { l.push token with cursor, keyAllowed := newLine }

/-- Whether a character on its own begins no plain scalar. -/
def isIndicator (c : Char) : Bool :=
  isGap c || isBreak c || "-?:,[]\x7b\x7d#&*!|>'\"%@\x60".toList.contains c

/-- A plain scalar, if one may begin with the next character. -/
def fetchOther (l : Lexer) (c : Char) : Except Fault Lexer := do
  if isIndicator c then
    l.cursor.reach 2
    let mayBegin := c = '-' || (!l.inFlow && (c = '?' || c = ':'))
    if l.cursor.isBlankAhead 1 || !mayBegin then noToken
  l.fetchPlain

/-- The token that begins with a character. -/
def fetchAt (l : Lexer) (c : Char) : Except Fault Lexer := do
  let atStart := l.cursor.column = 0
  let starts ← if atStart && c = '-' then l.cursor.atMark '-' else pure false
  let ends ← if atStart && c = '.' then l.cursor.atMark '.' else pure false
  if c = '-' || (!l.inFlow && (c = '?' || c = ':')) then l.cursor.reach 2
  let standsAlone := l.cursor.isBlankAhead 1
  if c = '%' && atStart then l.fetchDirective
  else if starts then l.fetchDocumentMark .documentStart
  else if ends then l.fetchDocumentMark .documentEnd
  else if c = '[' then l.fetchFlowStart .flowSequenceStart
  else if c = '\x7b' then l.fetchFlowStart .flowMappingStart
  else if c = ']' then l.fetchFlowEnd .flowSequenceEnd
  else if c = '\x7d' then l.fetchFlowEnd .flowMappingEnd
  else if c = ',' then l.fetchFlowEntry
  else if c = '-' && standsAlone then l.fetchBlockEntry
  else if c = '?' && (l.inFlow || standsAlone) then l.fetchKey
  else if c = ':' && (l.inFlow || standsAlone) then l.fetchValue
  else if c = '*' then l.fetchAnchor .alias
  else if c = '&' then l.fetchAnchor .anchor
  else if c = '!' then l.fetchTag
  else if c = '|' && !l.inFlow then l.fetchBlockScalar false
  else if c = '>' && !l.inFlow then l.fetchBlockScalar true
  else if c = '\'' then l.fetchQuoted false
  else if c = '"' then l.fetchQuoted true
  else l.fetchOther c

/-- Reads one more token. -/
def fetch (l : Lexer) : Except Fault Lexer := do
  let l := l.toNextToken
  l.cursor.reach 1
  let l ← l.dropStale
  let l := l.unwind l.cursor.column
  match l.cursor.next? with
  | none => l.fetchEnd
  | some c =>
    let l ← l.fetchAt c
    l.cursor.reach 1
    return l

/-- The tokens that can no longer change. -/
def certain (l : Lexer) : List Token :=
  let number := (l.keys.map fun k => k.2.number).foldl min l.count
  (l.tokens.drop (l.count - number)).reverse

/-- Reads tokens to the end of the text or to a fault.  `fuel` bounds the number of steps, each of
which reads at least one character. -/
def run : Nat → Lexer → List Token × Option Fault
  | 0, l => (l.certain, some .token)
  | fuel + 1, l =>
    let next := do
      let m ← l.fetch
      if m.finished then pure m else m.dropStale
    match next with
    | .error fault => (l.certain, some fault)
    | .ok m => if m.finished then (m.tokens.reverse, none) else run fuel m

end Lexer

/-- The tokens of a text that may be cut, and the fault at which they end. -/
def tokenize (text : List Char) (isCut : Bool) : List Token × Option Fault :=
  Lexer.run (text.length + 1) { cursor := .ofText text isCut }

end Shortlist.Yaml
