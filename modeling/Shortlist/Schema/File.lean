import Shortlist.Calendar.Reading
import Shortlist.Json.Reader
import Shortlist.Text.Lines

/-!
# Files that cannot be read

A line of a file may be wrong, and is then reported with its number.  A `FileFault` is worse: the
reading of the whole file ends with it.
-/

namespace Shortlist

/-- Why the reading of a file ends. -/
inductive FileFault where
  | undecodable (fault : Text.Utf8Fault)
  | longInteger (integer : LongInteger)
  | tooDeep (nesting : Json.Nesting)
  | durationPair (fault : DurationPair)
deriving DecidableEq

/-- Reads the JSON document that a file holds. -/
def readDocument (bytes : Text.Bytes) : Except FileFault (Except Json.Malformed Value) :=
  match Text.readText bytes with
  | .error fault => .error (.undecodable fault)
  | .ok cs =>
    match Json.parse cs with
    | .ok v => .ok (.ok v)
    | .error (.malformed m) => .ok (.error m)
    | .error (.longInteger i) => .error (.longInteger i)
    | .error (.tooDeep nesting) => .error (.tooDeep nesting)

end Shortlist
