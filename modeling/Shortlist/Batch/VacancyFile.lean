import Shortlist.Schema.File

/-!
# Files of vacancies

The vacancy of a batch comes as a file that holds one JSON object.
-/

namespace Shortlist

/-- Why a file holds no vacancy document. -/
inductive VacancyFileFault where
  | file (fault : FileFault)
  | malformed (malformed : Json.Malformed)
  | notObject
deriving DecidableEq

/-- The message about a file without a vacancy document, if there is one. -/
def VacancyFileFault.message? : VacancyFileFault → Option String
  | .file _ => none
  | .malformed m => some ("Invalid vacancy JSON: " ++ m.message)
  | .notObject => some "Vacancy document must be a JSON object"

/-- Reads the object of a vacancy file. -/
def readVacancyFile (bytes : Text.Bytes) : Except VacancyFileFault Value :=
  match readDocument bytes with
  | .error fault => .error (.file fault)
  | .ok (.error m) => .error (.malformed m)
  | .ok (.ok (.mapping es)) => .ok (.mapping es)
  | .ok (.ok _) => .error .notObject

end Shortlist
