import Shortlist.CommandLine.Run
import Shortlist.Log.Line
import Std.Time.DateTime.Timestamp

/-!
# The program

Gathers what a command looks at, runs it, and carries out what it has done: changed files are
written, log lines and results are printed.
-/

namespace Shortlist.Program

/-- The present time. -/
def presentTime : IO Instant := do
  let t ← Std.Time.Timestamp.now
  let micros := t.toNanosecondsSinceUnixEpoch.val / 1000
  return (Instant.ofEpochMicros? micros).getD (.ofDate ⟨1, 1, 1, by decide, by decide⟩)

/-- A number drawn at random, of 128 bits. -/
def drawNumber : IO Nat := do
  return (← IO.getRandomBytes 16).toList.foldl (fun n b => n * 256 + b.toNat) 0

/-- What is at a place. -/
def itemAt (place : Place) : IO (Option Item) := do
  try
    let path ← IO.FS.realPath (Tree.absolute place).toText
    if ← path.isDir then return some .directory
    return some (.file (← IO.FS.readBinFile path).toList)
  catch _ => return none

/-- A tree with what is at the given places. -/
def load (t : Tree) (places : List Place) : IO Tree :=
  places.foldlM (fun t place => do
    match ← itemAt place with
    | some item => return t.put place item
    | none => return t) t

/-- Puts an item to its place. -/
def store (place : Place) (item : Item) : IO Unit := do
  let path := (Tree.absolute place).toText
  match item with
  | .directory => IO.FS.createDirAll path
  | .file content => IO.FS.writeBinFile path ⟨content.toArray⟩

/-- Runs a command, and gives its exit code. -/
def run (c : Command) : IO Nat := do
  let directory ← IO.currentDir
  let start : Tree := ⟨(Path.ofText directory.toString).names, []⟩
  let named ← load start (c.places start)
  let t ← load named (c.storePlaces named)
  let draws ← (List.replicate (c.drawLimit t) ()).mapM fun _ => drawNumber
  let now ← presentTime
  let (outcome, scene) := c.run now { draws } t
  for (place, item) in scene.tree.changesSince t do store place item
  for entry in scene.log do
    IO.println (String.ofList (entry.text scene.renderer now))
  IO.print (String.ofList scene.printed)
  match outcome with
  | .ok () => pure ()
  | .error (.broken cause) => IO.eprintln cause.text
  | .error ending => IO.eprint (ending.complaint?.getD "Usage: an option cannot be used.\n")
  return exitCode outcome

end Shortlist.Program

def main (args : List String) : IO UInt32 := do
  match Shortlist.Command.ofArguments args with
  | some c => return (← Shortlist.Program.run c).toUInt32
  | none =>
    for line in Shortlist.Command.usage do IO.eprintln line
    return (Shortlist.exitCode (.error .unusable)).toUInt32
