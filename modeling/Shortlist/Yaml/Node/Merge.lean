import Shortlist.Yaml.Fault
import Shortlist.Yaml.Node

/-!
# Mappings that take over entries

A mapping may take over the entries of others by a key of the type `merge`, whose value is a mapping
or a sequence of mappings.  What it takes over stands in front of its own entries, so that its
own count where keys are equal; of several mappings in a sequence the first one counts.

A mapping is settled once, before its entries are used.  This changes the graph: the entry of the
merge key is dropped before its value is looked at, so that a mapping may take over itself, and a
key of the type `value` becomes a text.
-/

namespace Shortlist.Yaml

namespace Graph

/-- The graph in which the keys of the type `value` among the given entries are texts. -/
def retagValues (g : Graph) (entries : List (NodeId × NodeId)) : Graph :=
  entries.foldl (fun g e => if g.tag e.1 = .value then g.retag e.1 .str else g) g

mutual

/-- Settles a mapping that has taken over the given entries so far.  `fuel` exceeds the number of
merge keys in the graph. -/
def settle : Nat → List (NodeId × NodeId) → NodeId → StateT Graph (Except Fault) Unit
  | 0, _, _ => pure ()
  | fuel + 1, taken, id => do
    let g ← get
    let entries := (g.entries? id).getD []
    let before := entries.takeWhile fun e => g.tag e.1 ≠ .merge
    set (g.retagValues before)
    match entries.drop before.length with
    | [] => if !taken.isEmpty then modify fun g => g.reshape id (.mapping (taken ++ entries))
    | (_, source) :: after =>
      modify fun g => g.reshape id (.mapping (before ++ after))
      let found ← takeOver fuel source
      settle fuel (taken ++ found) id

/-- The entries that the value of a merge key stands for. -/
def takeOver : Nat → NodeId → StateT Graph (Except Fault) (List (NodeId × NodeId))
  | 0, _ => pure []
  | fuel + 1, source => do
    match (← get).items? source with
    | some items =>
      let taken ← items.mapM (takeFrom fuel)
      return taken.reverse.flatten
    | none => takeFrom fuel source

/-- The entries of a mapping that is taken over. -/
def takeFrom : Nat → NodeId → StateT Graph (Except Fault) (List (NodeId × NodeId))
  | 0, _ => pure []
  | fuel + 1, id => do
    if ((← get).entries? id).isNone then throw .construction
    settle fuel [] id
    return ((← get).entries? id).getD []

end

end Graph

end Shortlist.Yaml
