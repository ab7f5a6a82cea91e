import Shortlist.Batch.ApplicationsFile
import Shortlist.Pipeline.Basic

/-!
# Batches

A batch registers the vacancy of one file and decides on the applications of another one.  A line of
the second file may name a vacancy, but only that of the batch.  What went wrong is listed: first
the bad lines, then the entries that name another vacancy.  The results and what is to know about
the batch are written to the output file at the end; a fault before that leaves the output file
alone.  A text that has no bytes is noticed only when the file has been emptied.

A batch goes by one reading of the clock: the vacancy, all decisions and the report have the same
time.  A clock that goes on meanwhile would give later decisions later times.
-/

namespace Shortlist

/-- The files of a batch. -/
structure BatchPaths where
  vacancy : Path
  applications : Path
  output : Path
deriving DecidableEq

/-- Something that kept an application out of a batch. -/
inductive BatchError where
  | line (error : LineError)
  | mismatch (entry : Nat) (vacancyId batchVacancyId : Text)
deriving DecidableEq

/-- The message about an application that was kept out of a batch. -/
def BatchError.message : BatchError → String
  | .line error => error.message
  | .mismatch entry vacancyId batchVacancyId =>
    "entry " ++ toString entry ++ ": vacancy_id " ++ vacancyId.quoted
      ++ " does not match batch vacancy " ++ batchVacancyId.quoted

/-- What a batch came to. -/
structure BatchReport where
  vacancyId : Text
  results : List Application
  errors : List BatchError
  finishedAt : Text

namespace BatchReport

/-- The number of results with a status. -/
def count (r : BatchReport) (status : Status) : Nat :=
  (r.results.filter fun a => a.status = status).length

/-- The version that a report names. -/
def version : String := "0.1.0"

/-- What is to know about a batch. -/
def metadata (r : BatchReport) : Value :=
  .record [("vacancy_id", .text r.vacancyId), ("application_count", .int r.results.length),
    ("accepted", .int (r.count .accepted)), ("rejected", .int (r.count .rejected)),
    ("errors", .list (r.errors.map fun e => .text e.message)), ("timestamp", .text r.finishedAt),
    ("app_version", .text version)]

/-- The content of the output file. -/
def toValue (r : BatchReport) : Value :=
  .record [("metadata", r.metadata), ("results", .list (r.results.map fun a => a.toValue.dump))]

end BatchReport

namespace Pipeline

open Session

/-- Refuses a result that cannot be reduced to what the output file can hold. -/
def checkReducible (application : Application) : Action Unit :=
  match Record.dump? application with
  | .ok _ => pure ()
  | .error fault => throw (.irreducible fault)

/-- Decides on the entries of a batch, the first one having the given number.  Gives the results and
the entries that name another vacancy. -/
def decideEntries (setup : Setup) (now : Instant) (vacancyId : Text) (number : Nat) :
    List BatchEntry → Action (List Application × List BatchError)
  | [] => pure ([], [])
  | entry :: rest => do
    match entry.vacancyId.filter (· ≠ vacancyId) with
    | some other =>
      report [.vacancyMismatch number other vacancyId]
      let (results, errors) ← decideEntries setup now vacancyId (number + 1) rest
      return (results, .mismatch number other vacancyId :: errors)
    | none =>
      let application ←
        createApplication setup now vacancyId entry.applicantId entry.documents
      checkReducible application
      let (results, errors) ← decideEntries setup now vacancyId (number + 1) rest
      return (application :: results, errors)

/-- Writes a value to the output file, whose directories are made. -/
def writeOutput (p : Path) (v : Value) : Action Unit := do
  changeFiles (·.makeDirectories p.parent)
  match Json.document .page v with
  | .error fault => throw (.unwritable fault)
  | .ok t =>
    changeFiles (·.write p [])
    match t.encode with
    | .error fault => throw (.unencodable fault)
    | .ok bytes => changeFiles (·.write p bytes)

/-- Reads a file of applications. -/
def loadApplications (p : Path) : Action ApplicationsFile := do
  match ApplicationsFile.read (← readFile p) with
  | .ok file =>
    if !file.errors.isEmpty then report [.partialLoad (file.errors.map (·.message))]
    return file
  | .error fault => throw (.file fault)

/-- Registers the vacancy of a file. -/
def registerFile (now : Instant) (p : Path) : Action Vacancy := do
  match readVacancyFile (← readFile p) with
  | .ok document => createVacancy now document
  | .error (.file fault) => throw (.file fault)
  | .error fault => throw (.vacancyFile fault)

/-- Runs a batch and writes its output. -/
def runBatch (setup : Setup) (now : Instant) (paths : BatchPaths) : Action BatchReport := do
  let vacancy ← registerFile now paths.vacancy
  let file ← loadApplications paths.applications
  let (results, mismatches) ← decideEntries setup now vacancy.id 1 file.entries
  let report : BatchReport :=
    ⟨vacancy.id, results, file.errors.map .line ++ mismatches, timeText now⟩
  writeOutput paths.output report.toValue
  return report

end Pipeline

end Shortlist
