import Shortlist.CommandLine.Evaluate
import Shortlist.CommandLine.Screen

/-!
# Running commands

`Command.run` gives how a command ends and the scene it leaves behind.  Two more functions say which
places it looks at, so that a caller can provide them: `Command.places` and
`Command.storePlaces`.
-/

namespace Shortlist

namespace Command

/-- The work that a command asks for. -/
def task (now : Instant) (ids : IdSource) : Command → Task Unit
  | .help => Task.print (usage.flatMap fun line => line.toList ++ ['\n'])
  | .evaluate a => Evaluate.run now a
  | .screen a => Screen.run now ids a

/-- Runs a command on files. -/
def run (c : Command) (now : Instant) (ids : IdSource) (t : Tree) : Except Ending Unit × Scene :=
  (c.task now ids).run.run { tree := t }

/-- The texts by which a command may name files. -/
def paths : Command → List String
  | .help => []
  | .evaluate a | .screen a => a.options.map (·.2)

end Command

namespace Tree

/-- The places on the way that names lead from another one. -/
def visited (place : Place) : List String → List Place
  | [] => [place]
  | name :: rest => place :: visited (go place name) rest

/-- The places on the way of a path. -/
def visitedBy (t : Tree) (p : Path) : List Place := visited (t.start p) p.names

end Tree

namespace Command

/-- The places that a command looks at because of its options. -/
def places (c : Command) (t : Tree) : List Place :=
  Tree.visited [] t.here ++ c.paths.flatMap fun text => t.visitedBy (.ofText text)

/-- The places that a command looks at because of the store that its configuration asks for. -/
def storePlaces (c : Command) (t : Tree) : List Place :=
  match c with
  | .screen a =>
    match (a.value? "--config").map fun path => Config.readFile t (.ofText path) with
    | none | some (.error _) => []
    | some (.ok config) =>
      match Wiring.ofSettings config.toSettings with
      | .ok { directory := some directory, .. } =>
        [Store.vacanciesName, Store.applicationsName].flatMap fun name =>
          t.visitedBy (directory.child name)
      | _ => []
  | _ => []

/-- A number of ids that a command cannot exceed: one for a vacancy and one for each line. -/
def drawLimit (c : Command) (t : Tree) : Nat :=
  match c with
  | .screen a =>
    match (a.value? "--applications").map fun path => t.read (.ofText path) with
    | some (.ok bytes) => 2 + (Text.readLines bytes).lines.length
    | none | some (.error _) => 0
  | _ => 0

end Command

end Shortlist
