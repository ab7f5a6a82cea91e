import Shortlist.Audit
import Shortlist.Batch.VacancyFile
import Shortlist.Extraction
import Shortlist.Identifier
import Shortlist.Store.Basic

/-!
# Sessions

A pipeline works on a `Session`: the files, the store, the source of ids, the audit trail and the
events so far.  The store and the trail may be in files, and the output of a batch always is; paths
may lead to one place, so all of them are looked at as they are when they are needed.

An `Action` either gives a result or ends with a `Fault`; the session it leaves behind counts in
both cases.  What does not change, such as the extractor and the panel, is the `Setup`.
-/

namespace Shortlist

/-- How ids of applications are made. -/
inductive ApplicationIds where
  | drawn
  | always (id : String)
deriving DecidableEq

/-- The collaborators of a pipeline.  Without a separator no reasons can be joined. -/
structure Setup where
  extractor : Extractor := .standard .usual
  panel : Panel := .standard
  separator : Option Text := some "; "
  applicationIds : ApplicationIds := .drawn

/-- The separator that a value is; only a text is one. -/
def Setup.readSeparator : Value → Option Text
  | .text t => some t
  | _ => none

/-- The state of a pipeline; `asked` counts how often the extractor has been asked. -/
structure Session where
  files : Tree
  store : Store
  ids : IdSource := {}
  asked : Nat := 0
  audit : AuditTrail := .off
  events : List Event := []

/-- What a document that is handed in is about. -/
inductive Subject where
  | vacancy
  | application
deriving DecidableEq

/-- The word for a subject. -/
def Subject.name : Subject → String
  | .vacancy => "vacancy"
  | .application => "application"

/-- Why an action ends without a result. -/
inductive Fault where
  | invalid (subject : Subject) (issues : List Issue)
  | vacancyFile (fault : VacancyFileFault)
  | vacancyNotFound (vacancyId : Text)
  | store (fault : StoreFault)
  | extraction (fault : ExtractionFault)
  | unjudgeable (fault : Unjudgeable)
  | noSeparator
  | file (fault : FileFault)
  | obstructed (obstructed : Obstructed)
  | irreducible (fault : Value.PlainFault)
  | unwritable (fault : Json.Unwritable)
  | unencodable (fault : Text.Unencodable)
  | durationPair (fault : DurationPair)
  | recorder (raised : Escape)
deriving DecidableEq

/-- The message about an action that ended for a reason that a pipeline knows of. -/
def Fault.message? : Fault → Option String
  | .invalid subject issues =>
    let places := ", ".intercalate (issues.map Issue.placeText)
    some ("Invalid " ++ subject.name ++ ": " ++ toString issues.length ++ " error(s)"
      ++ if issues.isEmpty then "" else " (" ++ places ++ ")")
  | .vacancyFile fault => fault.message?
  | .vacancyNotFound vacancyId => some ("Vacancy not found: " ++ vacancyId.quoted)
  | .store fault => fault.message?
  | .extraction fault => fault.message?
  | .unjudgeable _ | .noSeparator | .file _ | .obstructed _ | .irreducible _ | .unwritable _
  | .unencodable _ | .durationPair _ | .recorder _ => none

/-- A step of work on a session. -/
abbrev Action (α : Type) := ExceptT Fault (StateM Session) α

namespace Session

/-- Reports events. -/
def report (events : List Event) : Action Unit :=
  modify fun s => { s with events := s.events ++ events }

/-- Draws an id for a kind of thing. -/
def freshId (word : String) : Action String := do
  let s ← get
  let (id, ids) := s.ids.fresh word
  set { s with ids }
  return id

/-- Asks an extractor for the facts in the evidence. -/
def askExtractor (extractor : Extractor) (documents : Documents) :
    Action (List Event × Except ExtractionFault Facts) := do
  let s ← get
  set { s with asked := s.asked + 1 }
  return extractor.run s.asked documents

/-- The outcome of work on the store. -/
def ofStore {α : Type} (outcome : Except StoreFault α) : Action α :=
  match outcome with
  | .ok a => pure a
  | .error fault => throw (.store fault)

/-- Adds a vacancy to the store. -/
def insertVacancy (vacancy : Vacancy) : Action Unit := do
  let s ← get
  let (vacancies, files) ← ofStore (s.store.vacancies.insert s.files vacancy)
  set { s with files, store := { s.store with vacancies } }

/-- Adds an application to the store. -/
def insertApplication (application : Application) : Action Unit := do
  let s ← get
  let (applications, files) ← ofStore (s.store.applications.insert s.files application)
  set { s with files, store := { s.store with applications } }

/-- Records a decision in the audit trail.  A failure is reported and has no other effect, unless
something escapes. -/
def record (r : AuditRecord) : Action Unit := do
  let s ← get
  let (audit, files, outcome) := s.audit.append s.files r
  set { s with files, audit }
  match outcome with
  | .ok () => pure ()
  | .error fault =>
    match fault.text with
    | .ok message => report [.auditFailed r.applicationId message]
    | .error raised => throw (.recorder raised)

/-- The content of the file at the end of a path. -/
def readFile (p : Path) : Action Text.Bytes := do
  match (← get).files.read p with
  | .ok content => return content
  | .error o => throw (.obstructed o)

/-- Does something to the files. -/
def changeFiles (change : Tree → Except Obstructed Tree) : Action Unit := do
  let s ← get
  match change s.files with
  | .ok files => set { s with files }
  | .error o => throw (.obstructed o)

end Session

end Shortlist
