import Shortlist.Application.Basic
import Shortlist.Schema.File

/-!
# Files of applications

A batch comes as a file with one application on each line.  Lines of blanks do not count.  Every
other line gives one entry, or one error with the number of the line; a bad line does not
affect the others.
-/

namespace Shortlist

/-- What is wrong with a line. -/
inductive LineFlaw where
  | malformed (malformed : Json.Malformed)
  | notObject
  | issues (count : Nat)
deriving DecidableEq

/-- A bad line. -/
structure LineError where
  line : Nat
  flaw : LineFlaw
deriving DecidableEq

/-- The message about a bad line. -/
def LineError.message (e : LineError) : String :=
  "line " ++ toString e.line ++ ": " ++ match e.flaw with
    | .malformed m => "invalid JSON (" ++ m.message ++ ")"
    | .notObject => "expected a JSON object"
    | .issues count => toString count ++ " validation error(s)"

/-- The entries of a file of applications and its bad lines, each in the order of the lines. -/
structure ApplicationsFile where
  entries : List BatchEntry
  errors : List LineError

namespace ApplicationsFile

/-- A file without lines. -/
def empty : ApplicationsFile := ⟨[], []⟩

/-- The contents of one file followed by those of another. -/
def append (a b : ApplicationsFile) : ApplicationsFile :=
  ⟨a.entries ++ b.entries, a.errors ++ b.errors⟩

/-- Reads the content of a line. -/
def readLine (number : Nat) (content : List Char) : Except FileFault ApplicationsFile :=
  match Json.parse content with
  | .error (.longInteger i) => .error (.longInteger i)
  | .error (.tooDeep nesting) => .error (.tooDeep nesting)
  | .error (.malformed m) => .ok ⟨[], [⟨number, .malformed m⟩]⟩
  | .ok (.mapping es) =>
    match BatchEntry.read (.mapping es) with
    | .accepted entry => .ok ⟨[entry], []⟩
    | .refused issues => .ok ⟨[], [⟨number, .issues issues.length⟩]⟩
    | .broken fault => .error (.durationPair fault)
  | .ok _ => .ok ⟨[], [⟨number, .notObject⟩]⟩

/-- Reads lines one by one. -/
def readContents : List (Nat × List Char) → Except FileFault ApplicationsFile
  | [] => .ok empty
  | (number, content) :: rest => do
    let first ← readLine number content
    let others ← readContents rest
    return first.append others

/-- Reads a file of applications. -/
def read (bytes : Text.Bytes) : Except FileFault ApplicationsFile := do
  let reading := Text.readLines bytes
  let file ← readContents (Text.contentLines 1 reading.lines)
  match reading.fault with
  | some fault => .error (.undecodable fault)
  | none => return file

end ApplicationsFile

end Shortlist
