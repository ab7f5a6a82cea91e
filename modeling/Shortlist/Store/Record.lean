import Shortlist.Application.Basic
import Shortlist.Files.Tree
import Shortlist.Json.Writer
import Shortlist.Schema.File
import Shortlist.Vacancy

/-!
# Records

Vacancies and applications are stored as records.  A record has an id and a line, which is the
compact JSON of its mapping.  A record that holds something for which a line has no bytes is refused
with a `Value.PlainFault`.
-/

namespace Shortlist

/-- What a collection can hold.  The mapping of a record can be reduced if it has no more than
`levels` values inside one another. -/
class Record (α : Type) where
  modelName : String
  id : α → Text
  levels : Nat
  read : Value → Check α
  toValue : α → Value

instance : Record Vacancy :=
  ⟨Vacancy.modelName, Vacancy.id, Vacancy.levels, Vacancy.read, Vacancy.toValue⟩

instance : Record Application :=
  ⟨Application.modelName, Application.id, Application.levels, Application.read,
    Application.toValue⟩

namespace Record

variable {α : Type} [Record α]

/-- Why a record has no line. -/
def lineFault? (a : α) : Option Value.PlainFault :=
  (toValue a).plainFault? true (levels α)

/-- The line of a record. -/
def line (a : α) : Text := ⟨Json.write .record 0 (toValue a).plain⟩

/-- The mapping of a record, reduced. -/
def dump? (a : α) : Except Value.PlainFault Value := (toValue a).dump? (levels α)

end Record

/-- The message about a record that has no line. -/
def lineFaultMessage (fault : Value.PlainFault) : String :=
  "Error serializing to JSON: " ++ match fault with
    | .undecodable f => f.lineMessage
    | .undecodableKey f => "UnicodeDecodeError: " ++ f.briefMessage
    | .unencodable f => "UnicodeEncodeError: " ++ f.message
    | .keyTooLong | .tooDeep | .circular => "ValueError: " ++ fault.message

/-- What is wrong with a line that holds no record. -/
inductive RecordFlaw where
  | malformed (malformed : Json.Malformed)
  | issues (count : Nat) (modelName : String)
deriving DecidableEq

/-- Why a store could not do what it was asked. -/
inductive StoreFault where
  | duplicate (id : Text)
  | unreadable (name : String) (line : Nat) (flaw : RecordFlaw)
  | file (fault : FileFault)
  | noLine (fault : Value.PlainFault)
  | obstructed (obstructed : Obstructed)
deriving DecidableEq

/-- The bytes of the line of a record, with its end. -/
def Record.lineBytes? {α : Type} [Record α] (a : α) : Except StoreFault Text.Bytes :=
  match Record.lineFault? a with
  | some fault => .error (.noLine fault)
  | none => .ok (Text.encodeUtf8 ((Record.line a).points.filterMap CodePoint.char? ++ ['\n']))

/-- The message about a store, if it is its own. -/
def StoreFault.message? : StoreFault → Option String
  | .duplicate id => some ("Duplicate id: " ++ id.quoted)
  | .unreadable name line flaw =>
    some (name ++ " line " ++ toString line ++ ": unreadable record (" ++ (match flaw with
      | .malformed m => m.message
      | .issues count modelName => issueCount count modelName) ++ ")")
  | .file _ | .noLine _ | .obstructed _ => none

end Shortlist
