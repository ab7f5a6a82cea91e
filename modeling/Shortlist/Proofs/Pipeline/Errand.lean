import Shortlist.Proofs.Batch.Lines
import Shortlist.Proofs.Pipeline.Atomicity
import Shortlist.Proofs.Pipeline.Call

/-!
# Errands

Whatever a pipeline can be asked for, with what it comes back with: vacancies are registered,
submissions are decided on, batches are run, and the store is looked at.  Between two errands
somebody else may write a file, such as those of the next batch.

A `Scope` says which files the errands of a run use and what is known about the documents that they
hand in.
-/

namespace Shortlist

open Shortlist.Action (exec)

/-- What a pipeline is asked for, or a file that somebody else writes. -/
inductive Errand where
  | createVacancy (document : Value)
  | registerVacancy (draft : VacancyDraft)
  | submit (payload : Payload)
  | runBatch (paths : BatchPaths)
  | listVacancies
  | getVacancy (vacancyId : Text)
  | listApplications (vacancyId : Option Text)
  | writeFile (path : Path) (content : Text.Bytes)

/-- What comes back. -/
inductive Reply where
  | vacancy (vacancy : Vacancy)
  | application (application : Application)
  | report (report : BatchReport)
  | vacancies (vacancies : List Vacancy)
  | applications (applications : List Application)
  | done

/-- The files that are read and written, and what is known about the documents of submissions.
Those in a file of applications are read from it as JSON. -/
structure Scope where
  documents : Documents → Prop
  reads : Path → Prop
  writes : Path → Prop
  documents_of_hasDecodedFacts : ∀ d : Documents, d.HasDecodedFacts → documents d

/-- The scope of all errands. -/
def Scope.everything : Scope where
  documents _ := True
  reads _ := True
  writes _ := True
  documents_of_hasDecodedFacts _ _ := trivial

namespace Errand

/-- What is done about an errand. -/
def action (setup : Setup) (now : Instant) : Errand → Action Reply
  | .createVacancy document => do return .vacancy (← Pipeline.createVacancy now document)
  | .registerVacancy draft => do return .vacancy (← Pipeline.registerVacancy now draft)
  | .submit payload => do return .application (← payload.submit setup now)
  | .runBatch paths => do return .report (← Pipeline.runBatch setup now paths)
  | .listVacancies => do return .vacancies (← Pipeline.listVacancies)
  | .getVacancy vacancyId => do return .vacancy (← Pipeline.getVacancy vacancyId)
  | .listApplications vacancyId => do
    return .applications (← Pipeline.listApplications vacancyId)
  | .writeFile path content => do
    Session.changeFiles (·.write path content)
    return .done

/-- The paths that an errand writes to. -/
def outputs : Errand → List Path
  | .runBatch paths => [paths.output]
  | .writeFile path _ => [path]
  | _ => []

/-- The files of an errand and the documents that it hands in are in a scope. -/
def IsWithin (scope : Scope) : Errand → Prop
  | .submit payload => ∀ submission, Submission.read payload.value = .accepted submission →
    scope.documents submission.documents
  | .runBatch paths =>
    scope.reads paths.vacancy ∧ scope.reads paths.applications ∧ scope.writes paths.output
  | .writeFile path _ => scope.writes path
  | _ => True

/-- What puts an errand in a scope: its documents, the files of a batch that are read, and the paths
that are written to. -/
lemma isWithin_of {scope : Scope} {errand : Errand}
    (hdocuments : ∀ payload, errand = .submit payload → ∀ submission,
      Submission.read payload.value = .accepted submission → scope.documents submission.documents)
    (hreads : ∀ paths, errand = .runBatch paths →
      scope.reads paths.vacancy ∧ scope.reads paths.applications)
    (hwrites : ∀ p ∈ errand.outputs, scope.writes p) : errand.IsWithin scope := by
  cases errand with
  | submit payload => exact hdocuments payload rfl
  | runBatch paths =>
    obtain ⟨hvacancy, happlications⟩ := hreads paths rfl
    exact ⟨hvacancy, happlications, hwrites _ List.mem_cons_self⟩
  | writeFile path content => exact hwrites _ List.mem_cons_self
  | _ => trivial

lemma isWithin_everything (errand : Errand) : errand.IsWithin .everything :=
  isWithin_of (fun _ _ _ _ => trivial) (fun _ _ => ⟨trivial, trivial⟩) fun _ _ => trivial

/-- What comes back from errands, each at its own time, and the session that they leave behind. -/
def run (setup : Setup) : List (Instant × Errand) → Session → List (Except Fault Reply) × Session
  | [], s => ([], s)
  | (now, errand) :: rest, s =>
    let (reply, s') := exec (errand.action setup now) s
    let (replies, last) := run setup rest s'
    (reply :: replies, last)

/-- Two applications for one posting, one after the other. -/
def twice : List (Instant × Errand) :=
  [(Pipeline.analystDay, .submit Pipeline.analystPayload),
    (Pipeline.analystDay, .submit Pipeline.analystPayload)]

open Pipeline in
/-- With a contained trail both applications come back. -/
lemma run_twice {s : Session} (hstore : s.store = postingStore .empty) (hids : s.ids = {})
    (hcontained : s.audit.IsContained) :
    let second := afterAnalyst s .empty
    run {} twice s = ([.ok (.application (analystRuling s).application),
        .ok (.application (analystRuling second).application)],
      afterAnalyst second (firstApplication s)) := by
  intro second
  obtain ⟨hfirst, hsecond⟩ := exec_submit_posting_twice hstore hids hcontained
  have hreply : exec (action {} analystDay (.submit analystPayload)) s = _ :=
    Action.exec_bind_ok hfirst _
  have hreply' : exec (action {} analystDay (.submit analystPayload)) (afterAnalyst s .empty) = _ :=
    Action.exec_bind_ok hsecond _
  simp only [twice, run, hreply, hreply', Action.exec_pure, second]

/-- The session that errands leave behind. -/
def after (setup : Setup) (errands : List (Instant × Errand)) (s : Session) : Session :=
  (run setup errands s).2

end Errand

end Shortlist
