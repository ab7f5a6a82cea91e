import Shortlist.Value.Basic

/-!
# Events

What a pipeline reports while it works.  Each event has a level, a name and fields.
-/

namespace Shortlist

/-- How much an event matters. -/
inductive LogLevel where
  | debug
  | info
  | warning
  | error
  | critical
deriving DecidableEq

namespace LogLevel

/-- The written form of a level. -/
def name : LogLevel → String
  | .debug => "debug"
  | .info => "info"
  | .warning => "warning"
  | .error => "error"
  | .critical => "critical"

/-- The level of a name; some levels have more than one. -/
def ofName? (name : String) : Option LogLevel :=
  if name = "debug" then some .debug
  else if name = "info" ∨ name = "msg" then some .info
  else if name = "warning" ∨ name = "warn" then some .warning
  else if name = "error" ∨ name = "exception" then some .error
  else if name = "critical" ∨ name = "fatal" then some .critical
  else none

/-- The weight of a level; events below a chosen weight are dropped. -/
def weight : LogLevel → Nat
  | .debug => 10
  | .info => 20
  | .warning => 30
  | .error => 40
  | .critical => 50

end LogLevel

/-- What a pipeline reports. -/
inductive Event where
  | vacancyCreated (vacancyId : Text) (requirements : Nat)
  | vacancyMissing (vacancyId : Text)
  | defaultsUsed
  | extractionFailed (error : String)
  | applicationDecided (applicationId vacancyId : Text) (status : String) (unmet : Nat)
  | auditFailed (applicationId : Text) (error : String)
  | partialLoad (errors : List String)
  | vacancyMismatch (entry : Nat) (vacancyId batchVacancyId : Text)
deriving DecidableEq

namespace Event

/-- The level of an event. -/
def level : Event → LogLevel
  | .defaultsUsed => .debug
  | .vacancyCreated .. | .applicationDecided .. => .info
  | .vacancyMissing _ | .partialLoad _ | .vacancyMismatch .. => .warning
  | .extractionFailed _ | .auditFailed .. => .error

/-- The name of an event. -/
def name : Event → String
  | .vacancyCreated .. => "vacancy.created"
  | .vacancyMissing _ => "application.vacancy_missing"
  | .defaultsUsed => "extraction.defaults_used"
  | .extractionFailed _ => "extraction.failed"
  | .applicationDecided .. => "application.decided"
  | .auditFailed .. => "audit.failed"
  | .partialLoad _ => "batch.partial_load"
  | .vacancyMismatch .. => "batch.vacancy_mismatch"

/-- The fields of an event. -/
def fields : Event → List (String × Value)
  | .vacancyCreated vacancyId requirements =>
    [("vacancy_id", .text vacancyId), ("requirement_count", .int requirements)]
  | .vacancyMissing vacancyId => [("vacancy_id", .text vacancyId)]
  | .defaultsUsed => []
  | .extractionFailed error => [("error", .text error)]
  | .applicationDecided applicationId vacancyId status unmet =>
    [("application_id", .text applicationId), ("vacancy_id", .text vacancyId),
      ("status", .text status), ("unmet_rules", .int unmet)]
  | .auditFailed applicationId error =>
    [("application_id", .text applicationId), ("error", .text error)]
  | .partialLoad errors => [("errors", .list (errors.map fun e => .text (.ofString e)))]
  | .vacancyMismatch entry vacancyId batchVacancyId =>
    [("entry", .int entry), ("vacancy_id", .text vacancyId),
      ("batch_vacancy_id", .text batchVacancyId)]

end Event

end Shortlist
