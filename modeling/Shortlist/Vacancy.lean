import Shortlist.Rule.Document

/-!
# Vacancies

A vacancy is a job posting with an ordered list of requirements, all of which a candidate has to
satisfy.  A `VacancyDraft` is a posting that has not been registered yet; registering gives it an
id and the time.
-/

namespace Shortlist

/-- A posting that has not been registered. -/
structure VacancyDraft where
  title : FilledText
  description : FilledText
  requirements : List Rule
  deadline : FilledText

/-- A registered posting. -/
structure Vacancy where
  id : Text
  title : FilledText
  description : FilledText
  requirements : List Rule
  deadline : FilledText
  createdAt : Text

namespace VacancyDraft

/-- The name of the model in messages. -/
def modelName : String := "VacancyDraft"

/-- Reads a draft from a mapping; without a list of requirements there are none. -/
def read (v : Value) : Check VacancyDraft :=
  (Check.entries (.notRecord modelName) v).andThen fun es =>
    Check.closed es ["title", "description", "requirements", "deadline"] <|
      VacancyDraft.mk <$> Check.required es "title" FilledText.read
        <*> Check.required es "description" FilledText.read
        <*> Check.optional es "requirements" [] Rule.readList
        <*> Check.required es "deadline" FilledText.read

/-- A number of levels that no draft exceeds. -/
def levels : Nat := Value.depthLimit

/-- The mapping of a draft. -/
def toValue (d : VacancyDraft) : Value :=
  .record [("title", .text d.title.text), ("description", .text d.description.text),
    ("requirements", Rule.listToValue d.requirements), ("deadline", .text d.deadline.text)]

/-- The posting registered under an id. -/
def register (d : VacancyDraft) (id createdAt : Text) : Vacancy :=
  ⟨id, d.title, d.description, d.requirements, d.deadline, createdAt⟩

end VacancyDraft

namespace Vacancy

/-- The name of the model in messages. -/
def modelName : String := "Vacancy"

/-- Reads a vacancy from a mapping. -/
def read (v : Value) : Check Vacancy :=
  (Check.entries (.notRecord modelName) v).andThen fun es =>
    Check.closed es ["id", "title", "description", "requirements", "deadline", "created_at"] <|
      Vacancy.mk <$> Check.required es "id" Check.text
        <*> Check.required es "title" FilledText.read
        <*> Check.required es "description" FilledText.read
        <*> Check.optional es "requirements" [] (Check.items .notSequence Rule.read)
        <*> Check.required es "deadline" FilledText.read
        <*> Check.required es "created_at" Check.text

/-- A number of levels that no vacancy exceeds. -/
def levels : Nat := Value.depthLimit

/-- The mapping of a vacancy. -/
def toValue (v : Vacancy) : Value :=
  .record [("id", .text v.id), ("title", .text v.title.text),
    ("description", .text v.description.text), ("requirements", Rule.listToValue v.requirements),
    ("deadline", .text v.deadline.text), ("created_at", .text v.createdAt)]

end Vacancy

end Shortlist
