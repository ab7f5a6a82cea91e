import Shortlist.Store.Record

/-!
# Collections in files

A file with one record on each line.  Every operation reads the whole file, so what has been written
by hand counts as well; lines of blanks do not count.  A record is appended with a line feed and
nothing else is touched; one that has no line is refused before the file is looked at.
-/

namespace Shortlist

/-- A collection in a file; without content there is no file yet. -/
structure RecordFile (α : Type) where
  name : String
  content : Option Text.Bytes

namespace RecordFile

variable {α : Type} [Record α]

/-- Reads the content of a line. -/
def readLine (name : String) (number : Nat) (content : List Char) : Except StoreFault α :=
  match Json.parse content with
  | .error (.longInteger i) => .error (.file (.longInteger i))
  | .error (.tooDeep nesting) => .error (.file (.tooDeep nesting))
  | .error (.malformed m) => .error (.unreadable name number (.malformed m))
  | .ok v =>
    match Record.read v with
    | .accepted a => .ok a
    | .refused issues =>
      .error (.unreadable name number (.issues issues.length (Record.modelName α)))
    | .broken fault => .error (.file (.durationPair fault))

/-- The records of the file, in the order of the lines. -/
def toList (f : RecordFile α) : Except StoreFault (List α) :=
  match f.content with
  | none => .ok []
  | some bytes => do
    let reading := Text.readLines bytes
    let records ← (Text.contentLines 1 reading.lines).mapM fun (number, content) =>
      readLine f.name number content
    match reading.fault with
    | some fault => .error (.file (.undecodable fault))
    | none => return records

/-- The number of records. -/
def size (f : RecordFile α) : Except StoreFault Nat := f.toList.map List.length

/-- The first record of an id. -/
def get? (f : RecordFile α) (id : Text) : Except StoreFault (Option α) :=
  f.toList.map fun records => records.find? fun a => Record.id a = id

/-- Appends the line of a record with an id, unless the id is taken. -/
def append (f : RecordFile α) (id : Text) (line : Text.Bytes) :
    Except StoreFault (RecordFile α) := do
  let records ← f.toList
  if records.any fun a => Record.id a = id then throw (.duplicate id)
  return { f with content := some (f.content.getD [] ++ line) }

/-- Appends a record, unless it has no line or its id is taken. -/
def insert (f : RecordFile α) (a : α) : Except StoreFault (RecordFile α) := do
  let line ← Record.lineBytes? a
  f.append (Record.id a) line

/-- The records that satisfy a condition. -/
def filter (f : RecordFile α) (condition : α → Bool) : Except StoreFault (List α) :=
  f.toList.map fun records => records.filter condition

end RecordFile

end Shortlist
