import Shortlist.Yaml.Node.Merge
import Shortlist.Yaml.Scalar.Reading

/-!
# What nodes come to

The nodes of a graph come to values from the root on, level by level: a scalar is read when it is
met, a collection is opened, and the collections that one level has opened are filled on the
next.  So of several faults the one at the least depth is reported, and among those the first.
A node is opened once, however many places hold it.

When all is filled, `Contents.value` unfolds a node.  A collection that is met inside itself is a
`Value.loop` there.
-/

namespace Shortlist.Yaml

/-! ## Keys -/

/-- The key that a value can be; collections are none. -/
def keyOf? : Value → Option Key
  | .null => some .null
  | .bool b => some (.bool b)
  | .int n => some (.int n)
  | .float x => some (.float x)
  | .text s => some (.name s)
  | .bytes content => some (.bytes content)
  | .date d => some (.date d)
  | .timestamp t => some (.timestamp t)
  | .list _ | .pair .. | .set _ | .mapping _ | .loop .. => none

/-- What a key is compared by.  Numbers of one value are the same key, a boolean being zero or one,
and so are timestamps of one instant.  What is not a number equals nothing but itself, so it counts
by its node, unless it is written as the word for it. -/
inductive Identity where
  | number (scaled : Int)
  | instant (micros : Int)
  | notNumber (source : Option NodeId)
  | other (key : Key)
deriving DecidableEq

/-- A key of a mapping. -/
structure NodeKey where
  key : Key
  identity : Identity

/-- What a key is compared by that comes from a source. -/
def identityOf (source : Option NodeId) : Key → Identity
  | .bool b => .number (Number.int (if b then 1 else 0)).scaled
  | .int n => .number (Number.int n).scaled
  | .float (.finite x) => .number (Number.double x).scaled
  | .float .nan => .notNumber source
  | .timestamp t =>
    if t.offset.isSome then .instant (Instant.ofTimestamp t).epochMicros else .other (.timestamp t)
  | key => .other key

/-! ## Contents -/

/-- What a node has come to: a scalar, or a collection with the nodes inside it. -/
inductive Content where
  | scalar (value : Value)
  | list (items : List NodeId)
  | pairs (pairs : List (NodeId × NodeId))
  | mapping (entries : List (NodeKey × NodeId))
  | set (members : List NodeKey)

/-- What the nodes of a graph have come to, and the collections to fill next, the last one first.
`fuel` exceeds the number of entries in the graph. -/
structure Contents where
  graph : Graph
  fuel : Nat
  known : Array (Option Content)
  waiting : List NodeId

/-- A step in finding what nodes come to. -/
abbrev Filler (α : Type) := StateT Contents (Except Fault) α

/-- The text of a node as a scalar.  That of a mapping is the text of its value under the first key
of the type `value`. -/
def Graph.scalarText (g : Graph) : Nat → NodeId → Except Fault Text
  | 0, _ => .error .tooDeep
  | fuel + 1, id =>
    match g[id]? with
    | some ⟨_, .scalar text⟩ => .ok text
    | some ⟨_, .mapping entries⟩ =>
      match entries.find? fun e => g.tag e.1 = .value with
      | some (_, value) => g.scalarText fuel value
      | none => .error .construction
    | _ => .error .construction

/-- The value of a node as a scalar.  The text of a date or timestamp has to be its own. -/
def Graph.scalarValue (g : Graph) (id : NodeId) : Except Fault Value := do
  let tag := g.tag id
  match tag with
  | .merge | .value | .other => throw .construction
  | _ =>
    let text ← g.scalarText (g.size + 1) id
    if tag = .timestamp && (g.entries? id).isSome then throw .noTimeText
    Scalar.read tag text

namespace Filler

/-- Says what a node has come to. -/
def know (id : NodeId) (content : Content) : Filler Unit :=
  modify fun s => { s with known := s.known.setIfInBounds id (some content) }

/-- Opens a collection, which is filled later. -/
def openNode (id : NodeId) (content : Content) : Filler Unit := do
  know id content
  modify fun s => { s with waiting := id :: s.waiting }

/-- Finds out what a node comes to, its content apart if it is a collection. -/
def meet (id : NodeId) : Filler Unit := do
  let s ← get
  if (s.known[id]?.bind fun c => c).isSome then return
  match s.graph.tag id with
  | .seq => openNode id (.list [])
  | .pairs => openNode id (.pairs [])
  | .map => openNode id (.mapping [])
  | .set => openNode id (.set [])
  | _ => know id (.scalar (← s.graph.scalarValue id))

/-- The items of a sequence. -/
def itemsOf (id : NodeId) : Filler (List NodeId) := do
  match (← get).graph.items? id with
  | some items => return items
  | none => throw .construction

/-- The entries of a mapping, those it takes over included. -/
def entriesOf (id : NodeId) : Filler (List (NodeId × NodeId)) := do
  let s ← get
  if (s.graph.entries? id).isNone then throw .construction
  let (_, graph) ← (Graph.settle s.fuel [] id).run s.graph
  set { s with graph }
  return (graph.entries? id).getD []

/-- The pair that a mapping of one entry stands for. -/
def meetPair (id : NodeId) : Filler (NodeId × NodeId) := do
  match (← get).graph.entries? id with
  | some [(key, value)] =>
    meet key
    meet value
    return (key, value)
  | _ => throw .construction

/-- Whether a node is written as the word for what is not a number. -/
def isNanWord (g : Graph) (id : NodeId) : Bool :=
  match g.scalarText (g.size + 1) id with
  | .ok text => Scalar.isNanWord text
  | .error _ => false

/-- The key that a node comes to. -/
def meetKey (id : NodeId) : Filler NodeKey := do
  meet id
  let s ← get
  match s.known[id]? with
  | some (some (.scalar value)) =>
    match keyOf? value with
    | some key => return ⟨key, identityOf (if isNanWord s.graph id then none else some id) key⟩
    | none => throw .construction
  | _ => throw .construction

/-- Puts a value under a key: in the place of the value that was there, or at the end. -/
def putEntry (key : NodeKey) (value : NodeId) : List (NodeKey × NodeId) → List (NodeKey × NodeId)
  | [] => [(key, value)]
  | e :: rest => if e.1.identity = key.identity then (e.1, value) :: rest
    else e :: putEntry key value rest

/-- Puts entries to the given ones. -/
def meetEntries (before : List (NodeKey × NodeId)) :
    List (NodeId × NodeId) → Filler (List (NodeKey × NodeId))
  | [] => return before
  | (key, value) :: rest => do
    let key ← meetKey key
    meet value
    meetEntries (putEntry key value before) rest

/-- Fills a collection that has been opened. -/
def fill (id : NodeId) : Filler Unit := do
  match (← get).graph.tag id with
  | .seq => do
    let items ← itemsOf id
    items.forM meet
    know id (.list items)
  | .pairs => do
    let pairs ← (← itemsOf id).mapM meetPair
    know id (.pairs pairs)
  | .set => do
    let entries ← meetEntries [] (← entriesOf id)
    know id (.set (entries.map (·.1)))
  | _ => do
    let entries ← meetEntries [] (← entriesOf id)
    know id (.mapping entries)

/-- Fills the collections that are open, and then those that these open.  `fuel` bounds the number
of levels. -/
def fillLevels : Nat → Filler Unit
  | 0 => return
  | fuel + 1 => do
    let s ← get
    if s.waiting.isEmpty then return
    set { s with waiting := [] }
    s.waiting.reverse.forM fill
    fillLevels fuel

end Filler

/-- What the nodes of a graph come to that can be reached from a root. -/
def Graph.contents (g : Graph) (root : NodeId) : Except Fault Contents := do
  let fill : Filler Unit := do
    Filler.meet root
    Filler.fillLevels (g.size + 1)
  let start : Contents := ⟨g, 3 * g.entryCount + 3, Array.replicate g.size none, []⟩
  return (← fill.run start).2

/-- The value of a node that is met inside the collections of a path.  `fuel` exceeds the length of
all paths, since no node is twice on a path. -/
def Contents.value (c : Contents) : Nat → List NodeId → NodeId → Value
  | 0, _, _ => .null
  | fuel + 1, path, id =>
    let inside := c.value fuel (id :: path)
    let up := path.idxOf id
    match (c.known[id]?.bind fun content => content) with
    | none => .null
    | some (.scalar v) => v
    | some (.list items) => if path.contains id then .loop false up else .list (items.map inside)
    | some (.pairs pairs) =>
      if path.contains id then .loop false up
      else .list (pairs.map fun p => .pair (inside p.1) (inside p.2))
    | some (.mapping entries) =>
      if path.contains id then .loop true up
      else .mapping (entries.map fun e => (e.1.key, inside e.2))
    | some (.set members) => .set (members.map (·.key))

end Shortlist.Yaml
