import Shortlist.Yaml.Node.Content
import Shortlist.Yaml.Node.Reader
import Shortlist.Yaml.Source

/-!
# YAML documents

A file holds at most one document, and the value of the document is that of its root.  A file
without one stands for null.
-/

namespace Shortlist.Yaml

/-- The value of the document that a text holds; the text may be cut. -/
def parse (text : List Char) (isCut : Bool) : Except Fault Value := do
  match ← Graph.read text isCut with
  | (_, none) => return .null
  | (graph, some root) =>
    let contents ← graph.contents root
    return contents.value (graph.size + 1) [] root

namespace Source

/-- The value of the document in a source.  A source that is cut at its beginning has its own
fault. -/
def document (s : Source) : Except FileFault Value :=
  match s.fault with
  | none => (parse s.chars false).mapError .text
  | some fault =>
    if s.chars.isEmpty then .error fault
    else
      match parse s.chars true with
      | .error .unread => .error fault
      | outcome => outcome.mapError .text

end Source

/-- Reads the document of a file. -/
def readFile (bytes : Text.Bytes) : Except FileFault Value := (Source.ofBytes bytes).document

end Shortlist.Yaml
