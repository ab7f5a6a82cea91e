import Shortlist.Yaml.Node
import Shortlist.Yaml.Scalar.Form
import Shortlist.Yaml.Token.Lexer

/-!
# From tokens to nodes

The grammar of a YAML text, by recursive descent over its tokens.  A node gets its number before the
nodes inside it do, so an alias inside the node that it stands for finds the number.  A text holds
one document or none, and collections may stand inside one another up to `nestingLimit` levels.

The reader looks at a token only when it has to, so a fault of the lexer shows only where the
grammar does not fail before.
-/

namespace Shortlist.Yaml

/-- What is left of a text while its nodes are read, and the nodes that have been read. -/
structure Remaining where
  tokens : List Token
  fault : Option Fault
  graph : Graph := #[]
  depth : Nat := 0
  anchors : List (String × NodeId) := []
  handles : List (String × String) := []

/-- A reader of nodes. -/
abbrev NodeReader (α : Type) := StateT Remaining (Except Fault) α

/-- The greatest number of collections inside one another. -/
def nestingLimit : Nat := 485

namespace NodeReader

/-- The next token. -/
def peek : NodeReader Token := do
  let r ← get
  match r.tokens with
  | t :: _ => return t
  | [] => throw (r.fault.getD .grammar)

/-- Drops the next token. -/
def drop : NodeReader Unit := modify fun r => { r with tokens := r.tokens.tail }

/-- Drops the next token if it is the given one, and says whether it was. -/
def dropIf (t : Token) : NodeReader Bool := do
  if (← peek) = t then
    drop
    return true
  else return false

/-- Whether the next token is one of the given ones. -/
def isAt (ts : List Token) : NodeReader Bool := do return ts.contains (← peek)

/-- The fault of tokens that do not fit the grammar. -/
def mismatch {α : Type} : NodeReader α := throw .grammar

/-- Drops the next token, which has to be the given one. -/
def expect (t : Token) : NodeReader Unit := do
  if !(← dropIf t) then mismatch

/-! ## Properties of nodes -/

/-- The handles that are always known. -/
def knownHandles : List (String × String) := [("!", "!"), ("!!", Tag.authority)]

/-- The full name of a written tag, if its handle is known. -/
def fullName (t : TagText) : NodeReader String := do
  match t.handle with
  | none => return t.suffix
  | some handle =>
    match (← get).handles.find? (·.1 = handle) with
    | some (_, extent) => return extent ++ t.suffix
    | none => mismatch

/-- Reads an anchor, if there is one. -/
def readAnchor : NodeReader (Option String) := do
  match ← peek with
  | .anchor name =>
    drop
    return some name
  | _ => return none

/-- Reads a tag, if there is one. -/
def readTag : NodeReader (Option TagText) := do
  match ← peek with
  | .tag t =>
    drop
    return some t
  | _ => return none

/-- Reads an anchor and a tag in either order. -/
def readProperties : NodeReader (Option String × Option TagText) := do
  match ← readAnchor with
  | some name => return (some name, ← readTag)
  | none =>
    match ← readTag with
    | some t => return (← readAnchor, some t)
    | none => return (none, none)

/-- Refuses an anchor that has been used. -/
def checkAnchor (anchor : Option String) : NodeReader Unit := do
  let r ← get
  if anchor.any fun name => r.anchors.any (·.1 = name) then throw .composition

/-- The node that an alias stands for. -/
def aliased (name : String) : NodeReader NodeId := do
  match (← get).anchors.find? (·.1 = name) with
  | some (_, id) => return id
  | none => throw .composition

/-- The type of a scalar.  A plain one without a tag, and any one with the tag that leaves its type
open, has the type that it looks like. -/
def scalarTag (name : Option String) (text : Text) (plain : Bool) : Tag :=
  match name with
  | none => if plain then .ofForm text else .str
  | some name => if name = Tag.unspecific then .ofForm text else .ofName name

/-- The type of a collection. -/
def collectionTag (name : Option String) (usual : Tag) : Tag :=
  match name with
  | none => usual
  | some name => if name = Tag.unspecific then usual else .ofName name

/-! ## Nodes -/

/-- Adds a node, and notes its anchor. -/
def addNode (anchor : Option String) (node : Node) : NodeReader NodeId := do
  let r ← get
  let id := r.graph.size
  let anchors := match anchor with
    | some name => (name, id) :: r.anchors
    | none => r.anchors
  set { r with graph := r.graph.push node, anchors }
  return id

/-- Adds a scalar. -/
def addScalar (anchor name : Option String) (text : Text) (plain : Bool) : NodeReader NodeId := do
  checkAnchor anchor
  addNode anchor ⟨scalarTag name text plain, .scalar text⟩

/-- Adds the node of a place where nothing is written. -/
def addEmpty : NodeReader NodeId := addNode none ⟨.ofForm "", .scalar ""⟩

/-- Adds a collection of a type and reads what it consists of. -/
def addCollection (anchor : Option String) (tag : Tag) (read : NodeReader Shape) :
    NodeReader NodeId := do
  checkAnchor anchor
  let id ← addNode anchor ⟨tag, .sequence []⟩
  if nestingLimit ≤ (← get).depth then throw .tooDeep
  modify fun r => { r with depth := r.depth + 1 }
  let shape ← read
  modify fun r => { r with depth := r.depth - 1, graph := r.graph.reshape id shape }
  return id

mutual

/-- Reads a node.  `inBlock` says whether blocks may begin, and `dashes` whether entries may follow
that are not indented.  `fuel` bounds the depth and the number of entries. -/
def readNode : Nat → Bool → Bool → NodeReader NodeId
  | 0, _, _ => mismatch
  | fuel + 1, inBlock, dashes => do
    match ← peek with
    | .alias name =>
      drop
      aliased name
    | _ =>
      let (anchor, tagText) ← readProperties
      let name ← match tagText with
        | some t => do pure (some (← fullName t))
        | none => pure none
      let next ← peek
      match next, inBlock with
      | .scalar text plain, _ =>
        drop
        addScalar anchor name text plain
      | .flowSequenceStart, _ =>
        drop
        addCollection anchor (collectionTag name .seq) (readFlowItems fuel true [])
      | .flowMappingStart, _ =>
        drop
        addCollection anchor (collectionTag name .map) (readFlowEntries fuel true [])
      | .blockSequenceStart, true =>
        drop
        addCollection anchor (collectionTag name .seq) (readBlockItems fuel [])
      | .blockMappingStart, true =>
        drop
        addCollection anchor (collectionTag name .map) (readBlockEntries fuel [])
      | _, _ =>
        if dashes && next = .blockEntry then
          addCollection anchor (collectionTag name .seq) (readDashItems fuel [])
        else if anchor.isSome || name.isSome then addScalar anchor name "" true
        else mismatch

/-- Reads a node unless one of the given tokens comes, which leaves the place empty. -/
def readUnless : Nat → List Token → Bool → Bool → NodeReader NodeId
  | 0, _, _, _ => mismatch
  | fuel + 1, stops, inBlock, dashes => do
    if ← isAt stops then addEmpty else readNode fuel inBlock dashes

/-- Reads the items of a block up to its end, after those of `before` in reverse. -/
def readBlockItems : Nat → List NodeId → NodeReader Shape
  | 0, _ => mismatch
  | fuel + 1, before => do
    if ← dropIf .blockEntry then
      let item ← readUnless fuel [.blockEntry, .blockEnd] true false
      readBlockItems fuel (item :: before)
    else if ← dropIf .blockEnd then return .sequence before.reverse
    else mismatch

/-- Reads the items of a sequence that is not indented. -/
def readDashItems : Nat → List NodeId → NodeReader Shape
  | 0, _ => mismatch
  | fuel + 1, before => do
    if ← dropIf .blockEntry then
      let item ← readUnless fuel [.blockEntry, .key, .value, .blockEnd] true false
      readDashItems fuel (item :: before)
    else return .sequence before.reverse

/-- Reads the value that may follow a key. -/
def readValue : Nat → List Token → Bool → NodeReader NodeId
  | 0, _, _ => mismatch
  | fuel + 1, stops, inBlock => do
    if ← dropIf .value then readUnless fuel stops inBlock inBlock else addEmpty

/-- Reads the entries of a block up to its end. -/
def readBlockEntries : Nat → List (NodeId × NodeId) → NodeReader Shape
  | 0, _ => mismatch
  | fuel + 1, before => do
    if ← dropIf .key then
      let stops : List Token := [.key, .value, .blockEnd]
      let key ← readUnless fuel stops true true
      let value ← readValue fuel stops true
      readBlockEntries fuel ((key, value) :: before)
    else if ← dropIf .blockEnd then return .mapping before.reverse
    else mismatch

/-- Reads a mapping of one entry after its key mark. -/
def readPair : Nat → NodeReader Shape
  | 0 => mismatch
  | fuel + 1 => do
    let key ← readUnless fuel [.value, .flowEntry, .flowSequenceEnd] false false
    let value ← readValue fuel [.flowEntry, .flowSequenceEnd] false
    return .mapping [(key, value)]

/-- Reads the items of a flow sequence up to its end.  A key makes the item a mapping of one
entry. -/
def readFlowItems : Nat → Bool → List NodeId → NodeReader Shape
  | 0, _, _ => mismatch
  | fuel + 1, first, before => do
    if ← dropIf .flowSequenceEnd then return .sequence before.reverse
    if !first then expect .flowEntry
    if ← dropIf .key then
      let item ← addCollection none .map (readPair fuel)
      readFlowItems fuel false (item :: before)
    else if ← dropIf .flowSequenceEnd then return .sequence before.reverse
    else
      let item ← readNode fuel false false
      readFlowItems fuel false (item :: before)

/-- Reads the entries of a flow mapping up to its end.  A node that is no key has no value. -/
def readFlowEntries : Nat → Bool → List (NodeId × NodeId) → NodeReader Shape
  | 0, _, _ => mismatch
  | fuel + 1, first, before => do
    if ← dropIf .flowMappingEnd then return .mapping before.reverse
    if !first then expect .flowEntry
    if ← dropIf .key then
      let key ← readUnless fuel [.value, .flowEntry, .flowMappingEnd] false false
      let value ← readValue fuel [.flowEntry, .flowMappingEnd] false
      readFlowEntries fuel false ((key, value) :: before)
    else if ← dropIf .flowMappingEnd then return .mapping before.reverse
    else
      let key ← readNode fuel false false
      let value ← addEmpty
      readFlowEntries fuel false ((key, value) :: before)

end

/-! ## Documents -/

/-- Reads the directives of a document: whether a version has been named, and the handles. -/
def readDirectives : Nat → Bool → List (String × String) → NodeReader (List (String × String))
  | 0, _, handles => return handles
  | fuel + 1, versioned, handles => do
    match ← peek with
    | .directive d =>
      drop
      match d with
      | .version major =>
        if versioned || major ≠ 1 then mismatch else readDirectives fuel true handles
      | .tag handle extent =>
        if handles.any (·.1 = handle) then mismatch
        else readDirectives fuel versioned ((handle, extent) :: handles)
      | .other => readDirectives fuel versioned handles
    | _ => return handles

/-- Drops marks of the end of a document. -/
def dropEnds : Nat → NodeReader Unit
  | 0 => return ()
  | fuel + 1 => do if ← dropIf .documentEnd then dropEnds fuel

/-- Reads the head of a document that has one; without a document there is none. -/
def readHead (fuel : Nat) : NodeReader Bool := do
  dropEnds fuel
  if ← isAt [.streamEnd] then return false
  let handles ← readDirectives fuel false []
  modify fun r => { r with handles := handles ++ knownHandles }
  if ← dropIf .documentStart then return true else mismatch

/-- Reads the content of a document after its head. -/
def readContent (fuel : Nat) : NodeReader NodeId := do
  match ← peek with
  | .directive _ | .documentStart | .documentEnd | .streamEnd => addEmpty
  | _ => readNode fuel true false

/-- Reads the document of a text, if it holds one. -/
def readDocument (fuel : Nat) : NodeReader (Option NodeId) := do
  let node ← match ← peek with
    | .directive _ | .documentStart | .streamEnd => do
      if ← readHead fuel then some <$> readContent fuel else pure none
    | _ => do
      modify fun r => { r with handles := knownHandles }
      some <$> readNode fuel true false
  if node.isSome then
    let _ ← dropIf .documentEnd
    if ← readHead fuel then throw .composition
  return node

end NodeReader

/-- The nodes of a text that may be cut, and the number of the one that is its document, if it holds
a document. -/
def Graph.read (text : List Char) (isCut : Bool) : Except Fault (Graph × Option NodeId) := do
  let (tokens, fault) := tokenize text isCut
  let (root, r) ← (NodeReader.readDocument (4 * tokens.length + 4)).run { tokens, fault }
  return (r.graph, root)

end Shortlist.Yaml
