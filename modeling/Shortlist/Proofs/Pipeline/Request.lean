import Shortlist.Proofs.Application
import Shortlist.Proofs.Json.Decoded
import Shortlist.Proofs.Pipeline.Submission

/-!
# Requests and answers

What can be asked of a pipeline one request at a time, and the answers: the records that come back,
as they are shown, or the fault.  `HasLines` says of a run of requests that every record which one
of them was about to store has a line.
-/

namespace Shortlist

open Shortlist.Action (exec)

/-- The extractor is the standard one, with defaults that a JSON text can say. -/
def Setup.HasStandardExtractor (setup : Setup) : Prop :=
  ∃ defaults, setup.extractor = .standard defaults ∧ defaults.IsDecoded

lemma Facts.isDecoded_usual : Facts.usual.IsDecoded := by
  intro field
  cases field with
  | degree | institution | graduationDate => exact .text _
  | gpa => exact .float _
  | age => exact .int (by decide)

lemma Extractor.run_standard (defaults : Facts) (asked : Nat) (documents : Documents) :
    ((Extractor.standard defaults).run asked documents).2
      = .ok (documents.facts.getD defaults) := by
  rw [run, extract]
  cases documents.facts <;> rfl

/-- What is asked of a pipeline. -/
inductive Request where
  | createVacancy (document : Value)
  | submit (document : Value)
  | listVacancies
  | getVacancy (vacancyId : Text)
  | listApplications (vacancyId : Option Text)

/-- The records that come back, as they are shown, or the reason for which one of them cannot be
shown. -/
abbrev Shown := List (Except Value.PlainFault Value)

namespace Request

/-- What is done about a request. -/
def action (setup : Setup) (now : Instant) : Request → Action Shown
  | .createVacancy document => do return [Record.dump? (← Pipeline.createVacancy now document)]
  | .submit document => do return [Record.dump? (← Pipeline.submitDocument setup now document)]
  | .listVacancies => do return (← Pipeline.listVacancies).map Record.dump?
  | .getVacancy vacancyId => do return [Record.dump? (← Pipeline.getVacancy vacancyId)]
  | .listApplications vacancyId => do
    return (← Pipeline.listApplications vacancyId).map Record.dump?

/-- A request whose document was read from a JSON text. -/
def IsRead : Request → Prop
  | .createVacancy document | .submit document => ∃ text, Json.parse text = .ok document
  | _ => True

/-- If a request is about to store a record, the record has a line. -/
def HasLine (setup : Setup) (now : Instant) (s : Session) : Request → Prop
  | .createVacancy document => ∀ draft, VacancyDraft.read document = .accepted draft →
    Record.lineFault? (draft.register (s.ids.fresh "vac").1 (Pipeline.timeText now)) = none
  | .submit document => ∀ submission, Submission.read document = .accepted submission →
    ∀ ruling s', exec (Pipeline.rule setup now submission.vacancyId.text submission.applicantId
        submission.documents) s = (.ok ruling, s') →
      Record.lineFault? ruling.application = none
  | _ => True

/-- The answers to requests, each made at its own time. -/
def answers (setup : Setup) : List (Instant × Request) → Session → List (Except Fault Shown)
  | [], _ => []
  | (now, request) :: rest, s =>
    (exec (request.action setup now) s).1
      :: answers setup rest (exec (request.action setup now) s).2

/-- Every record that one of the requests is about to store has a line. -/
def HasLines (setup : Setup) : List (Instant × Request) → Session → Prop
  | [], _ => True
  | (now, request) :: rest, s =>
    request.HasLine setup now s ∧ HasLines setup rest (exec (request.action setup now) s).2

end Request

end Shortlist
