/-!
# YAML tags

A tag names the type of a node.  The types of this library are the standard ones, which share the
name of an authority; a node with any other tag has no value.
-/

namespace Shortlist.Yaml

/-- The type of a node. -/
inductive Tag where
  | null
  | bool
  | int
  | float
  | binary
  | timestamp
  | str
  | seq
  | pairs
  | map
  | set
  | merge
  | value
  | other
deriving DecidableEq

namespace Tag

/-- What the full names of standard types begin with. -/
def authority : String := "tag:yaml.org,2002:"

/-- The types with their names.  A list of pairs has two: with one of them the pairs are taken to be
in order. -/
def names : List (String × Tag) := [
  ("null", .null), ("bool", .bool), ("int", .int), ("float", .float), ("binary", .binary),
  ("timestamp", .timestamp), ("str", .str), ("seq", .seq), ("omap", .pairs), ("pairs", .pairs),
  ("map", .map), ("set", .set), ("merge", .merge), ("value", .value)]

/-- The type with a full name. -/
def ofName (name : String) : Tag :=
  ((names.find? fun n => authority ++ n.1 = name).map (·.2)).getD .other

/-- The tag that leaves the type of a node open. -/
def unspecific : String := "!"

end Tag

end Shortlist.Yaml
