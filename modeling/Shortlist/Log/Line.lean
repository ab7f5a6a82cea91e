import Shortlist.Calendar.Instant
import Shortlist.Config.Basic
import Shortlist.Json.Writer
import Shortlist.Log.Threshold

/-!
# Log lines

An entry is written as a JSON object on one line, or as a line for the console.  Both hold the time
at which it is written.
-/

namespace Shortlist.LogEntry

mutual

/-- The value that a line holds for a value: what JSON cannot hold is spelled out. -/
def lineValue : Value → Value
  | .bytes content => .text (Text.quotedBytes content)
  | .date d => .text (.ofChars (Value.spellDate d))
  | .timestamp t => .text (.ofChars (Value.spellTimestamp t))
  | .set members => .text (.ofChars ((Value.spellSet members).toOption.getD []))
  | .list items => .list (lineValues items)
  | .pair first second => .pair (lineValue first) (lineValue second)
  | .mapping entries => .mapping (lineEntries entries)
  | .null | .loop .. => .null
  | .bool b => .bool b
  | .int n => .int n
  | .float x => .float x
  | .text t => .text t

/-- The values of a list as a line holds them. -/
def lineValues : List Value → List Value
  | [] => []
  | v :: rest => lineValue v :: lineValues rest

/-- The entries of a mapping as a line holds them. -/
def lineEntries : List (Key × Value) → List (Key × Value)
  | [] => []
  | (k, v) :: rest => (k, lineValue v) :: lineEntries rest

end

/-- The name of the field that asks for the trace of a failure.  No failure is being handled when an
entry is written, so the field is left out. -/
def traceField : String := "exc_info"

/-- The members of an entry in the order in which they are written.  The event, the time and the
level prevail over fields of the same names, and an event that is null is left out. -/
def members (e : LogEntry) (now : Instant) : Entries :=
  let event := match e.event with
    | .null => []
    | event => [("event", event)]
  let own :=
    event ++ [("timestamp", .text (String.ofList now.write)), ("level", .text e.level.name)]
  Entries.ofList <| ((e.fields.filter fun f => f.1 ≠ traceField) ++ own).map fun f =>
    (.name f.1, lineValue f.2)

/-- A text filled up with spaces. -/
def padded (width : Nat) (s : String) : List Char :=
  s.toList ++ List.replicate (width - s.length) ' '

/-- The text of an entry for the console. -/
def consoleText (e : LogEntry) (now : Instant) : List Char :=
  let fields := e.fields.flatMap fun (name, v) =>
    ' ' :: name.toList ++ '=' :: (Text.replacingSurrogates ⟨Json.write .line 0 v⟩).toList
  let event := (e.event.display.toOption.getD "").replacingSurrogates
  now.write ++ " [".toList ++ padded 9 e.level.name ++ "] ".toList ++ padded 30 event ++ fields

/-- The text of an entry, without the end of its line.  A JSON line is in ASCII. -/
def text (renderer : Renderer) (now : Instant) (e : LogEntry) : List Char :=
  match renderer with
  | .json => Json.asciiOnly (Json.write .line 0 (.mapping (e.members now)))
  | .console => e.consoleText now

end Shortlist.LogEntry
