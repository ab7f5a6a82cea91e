import Shortlist.CommandLine.Command
import Shortlist.Config.File
import Shortlist.Config.Wiring
import Shortlist.Log.Threshold

/-!
# Tasks

A command is a `Task` on a `Scene`: the files, what has been printed and what has been logged.  It
finishes, or it comes to an `Ending` before that; the scene it leaves behind counts in both cases.
-/

namespace Shortlist

/-- A fault that a command does not report in its own words. -/
inductive Breakdown where
  | files (obstructed : Obstructed)
  | config (fault : ConfigFileFault)
  | logLevel (name : ReservedName)
  | wiring (fault : WiringFault)
  | work (fault : Fault)
deriving DecidableEq

/-- The words for a fault of a pipeline. -/
def Fault.text : Fault → String
  | .file (.undecodable fault) | .store (.file (.undecodable fault)) => fault.message
  | .file (.longInteger i) | .store (.file (.longInteger i)) => i.message
  | .unjudgeable fault => fault.message?.getD "a rule cannot be judged"
  | .file (.tooDeep nesting) | .store (.file (.tooDeep nesting)) => nesting.message
  | .store (.noLine fault) => lineFaultMessage fault
  | .store (.obstructed o) | .obstructed o => o.message
  | .noSeparator => "the separator is no text"
  | .irreducible fault => fault.message
  | .unwritable fault => fault.message
  | .unencodable fault => fault.message
  | .durationPair _ => "an interval without an end"
  | fault => fault.message?.getD "a file cannot be read"

/-- The words for a fault that a command does not report in its own words. -/
def Breakdown.text : Breakdown → String
  | .files obstructed | .config (.unopened obstructed) => obstructed.message
  | .config (.undecodable fault) => fault.message
  | .config (.yaml fault) => fault.message?.getD "the configuration is no YAML document"
  | .config (.refused issues) =>
    "the configuration is refused: " ++ ", ".intercalate (issues.map Issue.placeText)
  | .config (.durationPair _) => "an interval without an end"
  | .logLevel name => name.message
  | .wiring fault => fault.message?.getD "the configuration cannot be used"
  | .work fault => fault.text

/-- Why a command does not finish: an option is unusable, the screening failed for a reason that it
reports, or something broke. -/
inductive Ending where
  | unusable
  | failed (message : String)
  | broken (cause : Breakdown)
deriving DecidableEq

/-- What a command works on. -/
structure Scene where
  tree : Tree
  renderer : Renderer := .json
  log : List LogEntry := []
  printed : List Char := []

/-- The work of a command. -/
abbrev Task (α : Type) := ExceptT Ending (StateM Scene) α

/-- The exit code of a command. -/
def exitCode : Except Ending Unit → Nat
  | .ok () => 0
  | .error .unusable => 2
  | .error (.failed _) | .error (.broken _) => 1

/-- What a command writes to the error output about its failure. -/
def Ending.complaint? : Ending → Option String
  | .failed message => some ("Screening failed: " ++ message ++ "\n")
  | .unusable | .broken _ => none

namespace Task

/-- Ends the task because something broke. -/
def breakOff {α : Type} (cause : Breakdown) : Task α := throw (.broken cause)

/-- The outcome of work, whose fault breaks the task off. -/
def attempt {ε α : Type} (cause : ε → Breakdown) (outcome : Except ε α) : Task α :=
  match outcome with
  | .ok a => pure a
  | .error fault => breakOff (cause fault)

/-- The files. -/
def tree : Task Tree := return (← get).tree

/-- Does something to the files. -/
def changeTree (change : Tree → Except Obstructed Tree) : Task Unit := do
  let scene ← get
  let tree ← attempt .files (change scene.tree)
  set { scene with tree }

/-- Prints a text. -/
def print (text : List Char) : Task Unit :=
  modify fun scene => { scene with printed := scene.printed ++ text }

/-- The content of a file that an option names. -/
def readBytes (path : String) : Task Text.Bytes := do
  attempt .files ((← tree).read (.ofText path))

/-- Prints a text that has bytes. -/
def printText (t : Text) : Task Unit :=
  match t.unencodable? with
  | some fault => breakOff (.work (.unencodable fault))
  | none => print (t.points.filterMap CodePoint.char?)

end Task

/-! ## Options that name files -/

namespace Task

/-- What is at the place that an option names, if anything is. -/
def look (path : Path) : Task (Option Item) := do
  if path.hasNullCharacter then breakOff (.files ⟨.nullCharacter, path⟩)
  return (← tree).look? path

/-- Refuses an option that names no file. -/
def requireFile (text : String) : Task Unit := do
  match ← look (.ofText text) with
  | some (.file _) => return ()
  | _ => throw .unusable

/-- Refuses an option that names a directory. -/
def refuseDirectory (path : Path) : Task Unit := do
  match ← look path with
  | some .directory => throw .unusable
  | _ => return ()

/-- The place of a path from the root, whatever is there. -/
def absolute (path : Path) : Task Path := do
  if path.hasNullCharacter then breakOff (.files ⟨.nullCharacter, path⟩)
  return Tree.absolute ((← tree).resolve path)

/-- Refuses a value that an option cannot have. -/
def checkOption (kind : OptionKind) (text : String) : Task Unit := do
  match kind with
  | .file => requireFile text
  | .target => refuseDirectory (.ofText text)
  | .place => refuseDirectory (← absolute (.ofText text))
  | .word => return ()

/-- The request that a command makes of its arguments.  The options that are given are checked
first, in the order in which each is given first. -/
def request {α : Type} (options : List (String × OptionKind)) (ofArguments : Arguments → Option α)
    (a : Arguments) : Task α := do
  for name in a.given do
    if let (some kind, some text) := (options.lookup name, a.value? name) then checkOption kind text
  match ofArguments a with
  | some request => return request
  | none => throw .unusable

end Task

end Shortlist
