import Shortlist.Application.Documents

/-!
# Applications

A `Submission` is an application as it comes in.  A `BatchEntry` is one line of a batch file, which
need not name its vacancy.  An `Application` is a submission on which it has been decided; the
status never changes afterwards.
-/

namespace Shortlist

/-- The status of an application. -/
inductive Status where
  | accepted
  | rejected
deriving DecidableEq

/-- The written form of a status. -/
def Status.name : Status → String
  | .accepted => "accepted"
  | .rejected => "rejected"

/-- Reads a status. -/
def Status.read : Value → Check Status :=
  Check.oneOf ([Status.accepted, .rejected].map fun s => (s.name, s))

/-- An application as it comes in. -/
structure Submission where
  applicantId : Option Text
  vacancyId : FilledText
  documents : Documents

/-- One line of a batch file. -/
structure BatchEntry where
  applicantId : Option Text
  vacancyId : Option Text
  documents : Documents

/-- An application with the decision on it. -/
structure Application where
  id : Text
  applicantId : Option Text
  vacancyId : Text
  documents : Documents
  status : Status
  feedback : Option Text
  createdAt : Text

namespace Submission

/-- The name of the model in messages. -/
def modelName : String := "ApplicationRequest"

/-- Reads a submission from a mapping. -/
def read (v : Value) : Check Submission :=
  (Check.entries (.notRecord modelName) v).andThen fun es =>
    Check.closed es ["applicant_id", "vacancy_id", "documents"] <|
      Submission.mk <$> Check.optional es "applicant_id" none Check.textOrNull
        <*> Check.required es "vacancy_id" FilledText.read
        <*> Check.optional es "documents" {} Documents.read

/-- The greatest number of values inside one another in the mapping of a submission that can be
reduced. -/
def levels : Nat := Documents.levels + 1

/-- The mapping of a submission. -/
def toValue (s : Submission) : Value :=
  .record [("applicant_id", .ofText? s.applicantId), ("vacancy_id", .text s.vacancyId.text),
    ("documents", s.documents.toValue)]

end Submission

namespace BatchEntry

/-- The name of the model in messages. -/
def modelName : String := "BatchApplication"

/-- Reads a batch entry from a mapping. -/
def read (v : Value) : Check BatchEntry :=
  (Check.entries (.notRecord modelName) v).andThen fun es =>
    Check.closed es ["applicant_id", "vacancy_id", "documents"] <|
      BatchEntry.mk <$> Check.optional es "applicant_id" none Check.textOrNull
        <*> Check.optional es "vacancy_id" none Check.textOrNull
        <*> Check.optional es "documents" {} Documents.read

/-- The greatest number of values inside one another in the mapping of a batch entry that can be
reduced. -/
def levels : Nat := Documents.levels + 1

/-- The mapping of a batch entry. -/
def toValue (e : BatchEntry) : Value :=
  .record [("applicant_id", .ofText? e.applicantId), ("vacancy_id", .ofText? e.vacancyId),
    ("documents", e.documents.toValue)]

end BatchEntry

namespace Application

/-- The name of the model in messages. -/
def modelName : String := "Application"

/-- Reads an application from a mapping. -/
def read (v : Value) : Check Application :=
  (Check.entries (.notRecord modelName) v).andThen fun es =>
    Check.closed es
        ["id", "applicant_id", "vacancy_id", "documents", "status", "feedback", "created_at"] <|
      Application.mk <$> Check.required es "id" Check.text
        <*> Check.optional es "applicant_id" none Check.textOrNull
        <*> Check.required es "vacancy_id" Check.text
        <*> Check.required es "documents" Documents.read
        <*> Check.required es "status" Status.read
        <*> Check.optional es "feedback" none Check.textOrNull
        <*> Check.required es "created_at" Check.text

/-- The greatest number of values inside one another in the mapping of an application that can be
reduced. -/
def levels : Nat := Documents.levels + 1

/-- The mapping of an application. -/
def toValue (a : Application) : Value :=
  .record [("id", .text a.id), ("applicant_id", .ofText? a.applicantId),
    ("vacancy_id", .text a.vacancyId), ("documents", a.documents.toValue),
    ("status", .text a.status.name), ("feedback", .ofText? a.feedback),
    ("created_at", .text a.createdAt)]

/-- The facts on which it was decided. -/
def facts (a : Application) : Facts := a.documents.facts.getD .none

end Application

end Shortlist
