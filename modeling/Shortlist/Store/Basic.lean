import Shortlist.Store.Memory
import Shortlist.Store.RecordFile

/-!
# The store

A `Store` holds the vacancies and the applications, in memory or in two files.  Records are only
ever added.

A collection in a file holds nothing but the path of the file.  Every operation looks at the files
as they are at the time, so that what something else has written there counts.
-/

namespace Shortlist

/-- A collection, wherever it is kept. -/
inductive Collection (α : Type) where
  | memory (collection : MemoryCollection α)
  | file (path : Path)

namespace RecordFile

/-- The collection in the file at the end of a path. -/
def load {α : Type} (files : Tree) (p : Path) : Except StoreFault (RecordFile α) :=
  match files.readIfThere p with
  | .ok content => .ok ⟨p.lastName, content⟩
  | .error o => .error (.obstructed o)

/-- Writes a collection to the file at the end of a path. -/
def save {α : Type} (f : RecordFile α) (files : Tree) (p : Path) : Except StoreFault Tree :=
  match f.content with
  | none => .ok files
  | some content =>
    match files.write p content with
    | .ok files => .ok files
    | .error o => .error (.obstructed o)

end RecordFile

namespace Collection

variable {α : Type} [Record α]

/-- The records, in the order of their insertion. -/
def toList (c : Collection α) (files : Tree) : Except StoreFault (List α) :=
  match c with
  | .memory c => .ok c.records
  | .file p => do (← RecordFile.load files p).toList

/-- The number of records. -/
def size (c : Collection α) (files : Tree) : Except StoreFault Nat :=
  match c with
  | .memory c => .ok c.size
  | .file p => do (← RecordFile.load (α := α) files p).size

/-- The record of an id. -/
def get? (c : Collection α) (files : Tree) (id : Text) : Except StoreFault (Option α) :=
  match c with
  | .memory c => .ok (c.get? id)
  | .file p => do (← RecordFile.load files p).get? id

/-- Adds a record at the end, unless it is refused. -/
def insert (c : Collection α) (files : Tree) (a : α) : Except StoreFault (Collection α × Tree) :=
  match c with
  | .memory c => do return (.memory (← c.insert a), files)
  | .file p => do
    let line ← Record.lineBytes? a
    let f ← (← RecordFile.load (α := α) files p).append (Record.id a) line
    return (.file p, ← f.save files p)

/-- The records that satisfy a condition. -/
def filter (c : Collection α) (files : Tree) (condition : α → Bool) :
    Except StoreFault (List α) :=
  match c with
  | .memory c => .ok (c.filter condition)
  | .file p => do (← RecordFile.load files p).filter condition

end Collection

/-- The vacancies and the applications. -/
structure Store where
  vacancies : Collection Vacancy
  applications : Collection Application

namespace Store

/-- The name of the file of vacancies. -/
def vacanciesName : String := "vacancies.jsonl"

/-- The name of the file of applications. -/
def applicationsName : String := "applications.jsonl"

/-- The empty store in memory. -/
def inMemory : Store := ⟨.memory .empty, .memory .empty⟩

/-- The store in two files of a directory. -/
def inDirectory (directory : Path) : Store :=
  ⟨.file (directory.child vacanciesName), .file (directory.child applicationsName)⟩

end Store

end Shortlist
