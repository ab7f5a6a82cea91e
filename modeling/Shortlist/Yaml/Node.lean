import Shortlist.Yaml.Tag
import Shortlist.Text.Basic

/-!
# YAML nodes

What a YAML text holds is a graph: an alias stands for a node that another place holds too, and a
collection may hold itself.  The nodes of a `Graph` have numbers, and a collection names the nodes
inside it by their numbers.
-/

namespace Shortlist.Yaml

/-- The number of a node in its graph. -/
abbrev NodeId := Nat

/-- What a node consists of. -/
inductive Shape where
  | scalar (text : Text)
  | sequence (items : List NodeId)
  | mapping (entries : List (NodeId × NodeId))

/-- A node: its type and what it consists of. -/
structure Node where
  tag : Tag
  shape : Shape

/-- The nodes of a text by number. -/
abbrev Graph := Array Node

namespace Graph

/-- The type of a node. -/
def tag (g : Graph) (id : NodeId) : Tag := (g[id]?.map (·.tag)).getD .other

/-- The entries of a node that is a mapping. -/
def entries? (g : Graph) (id : NodeId) : Option (List (NodeId × NodeId)) :=
  match g[id]? with
  | some ⟨_, .mapping entries⟩ => some entries
  | _ => none

/-- The items of a node that is a sequence. -/
def items? (g : Graph) (id : NodeId) : Option (List NodeId) :=
  match g[id]? with
  | some ⟨_, .sequence items⟩ => some items
  | _ => none

/-- The graph with another type for a node. -/
def retag (g : Graph) (id : NodeId) (tag : Tag) : Graph := g.modify id fun n => { n with tag }

/-- The graph with another content for a node. -/
def reshape (g : Graph) (id : NodeId) (shape : Shape) : Graph :=
  g.modify id fun n => { n with shape }

/-- The number of entries in all mappings. -/
def entryCount (g : Graph) : Nat :=
  g.foldl (fun n node => match node.shape with
    | .mapping entries => n + entries.length
    | _ => n) 0

end Graph

end Shortlist.Yaml
