import Shortlist.Application.Basic
import Shortlist.Failure
import Shortlist.Files.Tree
import Shortlist.Json.Writer
import Shortlist.Screening.Evaluation

/-!
# The audit trail

Every decision may be recorded with the facts it rests on.  A trail is kept in a file, with one JSON
object on each line, or by a recorder, which may fail at some of its calls.  A decision stands
whether or not it could be recorded, but what escapes from a recorder breaks off the work.
-/

namespace Shortlist

/-- The record of a decision. -/
structure AuditRecord where
  applicationId : Text
  vacancyId : Text
  applicantId : Option Text
  status : Status
  reasons : List Text
  facts : Facts
  createdAt : Text

namespace AuditRecord

/-- The record of the decision on an application. -/
def ofDecision (a : Application) (e : Evaluation) (facts : Facts) : AuditRecord :=
  ⟨a.id, a.vacancyId, a.applicantId, a.status, e.reasons, facts, a.createdAt⟩

/-- The mapping of a record. -/
def toValue (r : AuditRecord) : Value :=
  .record [("application_id", .text r.applicationId), ("vacancy_id", .text r.vacancyId),
    ("applicant_id", .ofText? r.applicantId), ("status", .text r.status.name),
    ("reasons", .list (r.reasons.map .text)), ("facts", r.facts.toValue.dump),
    ("created_at", .text r.createdAt)]

end AuditRecord

/-- Why a decision could not be recorded: its facts cannot be reduced, its record cannot be written
or has no bytes, or the file cannot be used. -/
inductive AuditFault where
  | facts (fault : Value.PlainFault)
  | unwritable (fault : Json.Unwritable)
  | unencodable (fault : Text.Unencodable)
  | obstructed (obstructed : Obstructed)
  | recorder (failure : Failure)
deriving DecidableEq

/-- The text about a decision that could not be recorded, or what escapes from the recorder. -/
def AuditFault.text : AuditFault → Except Escape String
  | .facts fault => .ok fault.message
  | .unwritable fault => .ok fault.message
  | .unencodable fault => .ok fault.message
  | .obstructed o => .ok o.message
  | .recorder failure => failure.text

/-- The bytes of the line of a value in an audit file, with its end. -/
def auditLine? (v : Value) : Except AuditFault Text.Bytes :=
  match Json.document .line v with
  | .error fault => .error (.unwritable fault)
  | .ok t =>
    match t.encode with
    | .error fault => .error (.unencodable fault)
    | .ok bytes => .ok (bytes ++ Text.encodeUtf8 ['\n'])

/-- Adds the line of a value to an audit file.  The file is there afterwards even if the value
cannot be written. -/
def appendAuditLine (files : Tree) (p : Path) (v : Value) : Tree × Except AuditFault Unit :=
  match files.append p [] with
  | .error o => (files, .error (.obstructed o))
  | .ok opened =>
    match auditLine? v with
    | .error fault => (opened, .error fault)
    | .ok line =>
      match opened.append p line with
      | .error o => (opened, .error (.obstructed o))
      | .ok files => (files, .ok ())

/-- Where decisions are recorded.  A recorder counts its calls, and `failure` says at which of them
it fails and how. -/
inductive AuditTrail where
  | off
  | file (path : Path)
  | recorder (failure : Nat → Option Failure) (calls : Nat) (records : List AuditRecord)

namespace AuditTrail

/-- A recorder that never fails. -/
def reliable : AuditTrail := .recorder (fun _ => none) 0 []

/-- A recorder that always fails with the given message. -/
def failing (message : String) : AuditTrail := .recorder (fun _ => some (.told message)) 0 []

/-- Whether there is a trail. -/
def isOn : AuditTrail → Bool
  | .off => false
  | _ => true

/-- Why the facts of a record cannot be reduced. -/
def factsFault? (r : AuditRecord) : Option Value.PlainFault :=
  r.facts.toValue.plainFault? false Facts.levels

/-- Records a decision whose facts can be reduced, or says why it could not be recorded. -/
def appendRecord (trail : AuditTrail) (files : Tree) (r : AuditRecord) :
    AuditTrail × Tree × Except AuditFault Unit :=
  match trail with
  | .off => (.off, files, .ok ())
  | .file p =>
    let (files, outcome) := appendAuditLine files p r.toValue
    (.file p, files, outcome)
  | .recorder failure calls records =>
    match failure calls with
    | some how => (.recorder failure (calls + 1) records, files, .error (.recorder how))
    | none => (.recorder failure (calls + 1) (records ++ [r]), files, .ok ())

/-- Records a decision, or says why it could not be recorded. -/
def append (trail : AuditTrail) (files : Tree) (r : AuditRecord) :
    AuditTrail × Tree × Except AuditFault Unit :=
  match trail.isOn, factsFault? r with
  | true, some fault => (trail, files, .error (.facts fault))
  | _, _ => trail.appendRecord files r

end AuditTrail

end Shortlist
