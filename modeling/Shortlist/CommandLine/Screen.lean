import Shortlist.CommandLine.Task
import Shortlist.Pipeline.Batch

/-!
# The command `screen`

Runs a batch over the files that the options name.  The configuration is read first; then the log is
opened, the directories of the audit file and of the store are made, and the batch is run.
Decisions that were stored, recorded or logged before a failure stay; the output file is written at
the end, after which the number of results is printed.
-/

namespace Shortlist.Screen

/-- The paths of the batch.  The output is where its path leads from the root. -/
def batchPaths (r : ScreenRequest) : Task BatchPaths := do
  return ⟨.ofText r.vacancy, .ofText r.applications, ← Task.absolute (.ofText r.output)⟩

/-- The configuration that an option names, or the usual one. -/
def readConfig : Option String → Task Config
  | none => pure {}
  | some path => do Task.attempt .config (Config.readFile (← Task.tree) (.ofText path))

/-- The name of the threshold of the log: that of the option, unless it is empty, or that of the
configuration. -/
def thresholdName (r : ScreenRequest) (c : Config) : Text :=
  match r.logLevel with
  | none | some "" => c.log.level
  | some name => name

/-- The audit trail in a file, whose directory is made. -/
def openTrail (r : ScreenRequest) : Task AuditTrail := do
  match r.auditLog with
  | none => return .off
  | some path =>
    let p : Path := .ofText path
    Task.changeTree (·.makeDirectories p.parent)
    return .file p

/-- The collaborators and the store of a wiring; the directory of the store is made. -/
def assemble (w : Wiring) : Task (Setup × Store) := do
  let (setup, store, files) ← Task.attempt .wiring (w.assemble (← Task.tree))
  Task.changeTree fun _ => .ok files
  return (setup, store)

/-- The line about a finished batch. -/
def summary (report : BatchReport) (output : Path) : List Char :=
  ("Processed " ++ toString report.results.length ++ " applications ("
    ++ toString (report.count .accepted) ++ " accepted). Results saved to "
    ++ output.toText ++ ".\n").toList

/-- Keeps the files and the events of a session. -/
def keepSession (threshold : Nat) (s : Session) : Task Unit :=
  modify fun scene => { scene with
    tree := s.files, log := scene.log ++ LogEntry.written threshold (s.events.map Event.entry) }

/-- Runs a batch in a session and keeps what it has done. -/
def runBatch (now : Instant) (setup : Setup) (paths : BatchPaths) (threshold : Nat)
    (session : Session) : Task BatchReport := do
  let (outcome, session) := (Pipeline.runBatch setup now paths).run.run session
  keepSession threshold session
  match outcome with
  | .ok report => return report
  | .error fault =>
    match fault.message? with
    | some message => throw (.failed message)
    | none => Task.breakOff (.work fault)

/-- Runs the batch and prints the line about it. -/
def run (now : Instant) (ids : IdSource) (a : Arguments) : Task Unit := do
  let r ← Task.request ScreenRequest.options ScreenRequest.ofArguments a
  let paths ← batchPaths r
  let config ← readConfig r.config
  let threshold ← Task.attempt .logLevel (Threshold.ofName (thresholdName r config))
  modify fun scene => { scene with renderer := config.log.renderer }
  let wiring ← Task.attempt .wiring (Wiring.ofSettings config.toSettings)
  let audit ← openTrail r
  let (setup, store) ← assemble wiring
  let files ← Task.tree
  let report ← runBatch now setup paths threshold { files, store, ids, audit }
  Task.print (summary report paths.output)

end Shortlist.Screen
