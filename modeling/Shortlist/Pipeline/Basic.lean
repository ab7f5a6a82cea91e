import Shortlist.Pipeline.Session

/-!
# The pipeline

Vacancies are registered, and applications are submitted and decided on at once.  A submission goes
through these steps: the vacancy is looked up, facts are extracted, the requirements are judged,
an id is drawn, and the application is stored with its decision.  A wait for the extractor
can only come after the first step; the work of a submission is therefore split into
`openSubmission` and `decide`.

A decision depends on nothing but the requirements, the facts and the time: see `Decision.ofFacts`.
-/

namespace Shortlist

/-- What is decided about a candidate. -/
structure Decision where
  evaluation : Evaluation
  separator : Option Text

namespace Decision

/-- The decision by the given requirements and facts. -/
def ofFacts (setup : Setup) (now : Instant) (requirements : List Rule) (facts : Facts) :
    Except Unjudgeable Decision :=
  (setup.panel.evaluate now facts requirements).map fun e => ⟨e, setup.separator⟩

/-- A candidate is accepted when every requirement is satisfied. -/
def status (d : Decision) : Status := if d.evaluation.satisfied then .accepted else .rejected

/-- A candidate who is not accepted is told the reasons, if there is a separator to join them. -/
def feedback (d : Decision) : Except Fault (Option Text) :=
  if d.evaluation.satisfied then .ok none
  else
    match d.separator with
    | some separator => .ok (some (separator.join d.evaluation.reasons))
    | none => .error .noSeparator

end Decision

/-- A submission whose vacancy has been looked up. -/
structure OpenSubmission where
  vacancy : Vacancy
  applicantId : Option Text
  documents : Documents

namespace Pipeline

open Session

/-- The text of a time in a record. -/
def timeText (now : Instant) : String := String.ofList now.write

/-- The outcome of reading a document that is handed in. -/
def ofCheck {α : Type} (subject : Subject) (check : Check α) : Action α :=
  match check with
  | .accepted a => pure a
  | .refused issues => throw (.invalid subject issues)
  | .broken fault => throw (.durationPair fault)

/-- Registers a vacancy. -/
def registerVacancy (now : Instant) (draft : VacancyDraft) : Action Vacancy := do
  let id ← freshId "vac"
  let vacancy := draft.register id (timeText now)
  insertVacancy vacancy
  report [.vacancyCreated vacancy.id vacancy.requirements.length]
  return vacancy

/-- Registers the vacancy that a document describes. -/
def createVacancy (now : Instant) (document : Value) : Action Vacancy := do
  let draft ← ofCheck .vacancy (VacancyDraft.read document)
  registerVacancy now draft

/-- Looks up the vacancy of an application. -/
def openSubmission (vacancyId : Text) (applicantId : Option Text) (documents : Documents) :
    Action OpenSubmission := do
  let s ← get
  match ← ofStore (s.store.vacancies.get? s.files vacancyId) with
  | some vacancy => return ⟨vacancy, applicantId, documents⟩
  | none =>
    report [.vacancyMissing vacancyId]
    throw (.vacancyNotFound vacancyId)

/-- Draws the id of an application. -/
def applicationId : ApplicationIds → Action String
  | .drawn => freshId "app"
  | .always id => pure id

/-- Stores an application with the decision on it. -/
def conclude (setup : Setup) (now : Instant) (submission : OpenSubmission) (facts : Facts)
    (decision : Decision) : Action Application := do
  let id ← applicationId setup.applicationIds
  let feedback ← ExceptT.mk (pure decision.feedback)
  let application : Application :=
    { id, applicantId := submission.applicantId, vacancyId := submission.vacancy.id,
      documents := { submission.documents with facts := some facts },
      status := decision.status, feedback, createdAt := timeText now }
  insertApplication application
  report [.applicationDecided id submission.vacancy.id application.status.name
    decision.evaluation.reasons.length]
  record (.ofDecision application decision.evaluation facts)
  return application

/-- Decides on an open submission by what the extractor came back with. -/
def decide (setup : Setup) (now : Instant) (submission : OpenSubmission)
    (extracted : List Event × Except ExtractionFault Facts) : Action Application := do
  report extracted.1
  match extracted.2 with
  | .error fault => throw (.extraction fault)
  | .ok facts =>
    match Decision.ofFacts setup now submission.vacancy.requirements facts with
    | .error fault => throw (.unjudgeable fault)
    | .ok decision => conclude setup now submission facts decision

/-- Decides on an application to a vacancy. -/
def createApplication (setup : Setup) (now : Instant) (vacancyId : Text)
    (applicantId : Option Text) (documents : Documents) : Action Application := do
  let submission ← openSubmission vacancyId applicantId documents
  let extracted ← askExtractor setup.extractor documents
  decide setup now submission extracted

/-- Decides on a submission. -/
def submit (setup : Setup) (now : Instant) (submission : Submission) : Action Application :=
  createApplication setup now submission.vacancyId.text submission.applicantId submission.documents

/-- Decides on the submission that a document describes. -/
def submitDocument (setup : Setup) (now : Instant) (document : Value) : Action Application := do
  let submission ← ofCheck .application (Submission.read document)
  submit setup now submission

/-- All vacancies, in the order of their registration. -/
def listVacancies : Action (List Vacancy) := do
  let s ← get
  ofStore (s.store.vacancies.toList s.files)

/-- The vacancy of an id. -/
def getVacancy (vacancyId : Text) : Action Vacancy := do
  let s ← get
  match ← ofStore (s.store.vacancies.get? s.files vacancyId) with
  | some vacancy => return vacancy
  | none => throw (.vacancyNotFound vacancyId)

/-- All applications, or those to a vacancy, in the order of the decisions. -/
def listApplications (vacancyId : Option Text) : Action (List Application) := do
  let s ← get
  match vacancyId with
  | none => ofStore (s.store.applications.toList s.files)
  | some id => ofStore (s.store.applications.filter s.files fun a => a.vacancyId = id)

end Pipeline

end Shortlist
