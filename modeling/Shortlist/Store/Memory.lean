import Shortlist.Store.Record
import Std.Data.HashMap

/-!
# Collections in memory

The records in the order of their insertion, with an index from ids to records.
-/

namespace Shortlist

/-- A collection in memory. -/
structure MemoryCollection (α : Type) where
  records : List α
  index : Std.HashMap Text α

namespace MemoryCollection

variable {α : Type}

/-- The collection without records. -/
def empty : MemoryCollection α := ⟨[], {}⟩

/-- The number of records. -/
def size (c : MemoryCollection α) : Nat := c.records.length

/-- The record of an id. -/
def get? (c : MemoryCollection α) (id : Text) : Option α := c.index[id]?

/-- Adds a record at the end, unless its id is taken. -/
def insert [Record α] (c : MemoryCollection α) (a : α) : Except StoreFault (MemoryCollection α) :=
  let id := Record.id a
  if c.index.contains id then .error (.duplicate id)
  else .ok ⟨c.records ++ [a], c.index.insert id a⟩

/-- The collection that results from inserting records one by one. -/
def ofList [Record α] (records : List α) : Except StoreFault (MemoryCollection α) :=
  records.foldlM insert empty

/-- The records that satisfy a condition. -/
def filter (c : MemoryCollection α) (condition : α → Bool) : List α := c.records.filter condition

end MemoryCollection

end Shortlist
