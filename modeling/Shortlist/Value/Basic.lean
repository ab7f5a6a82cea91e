import Shortlist.Calendar.Instant
import Shortlist.Number.Exact
import Shortlist.Text.Utf8

/-!
# Values

Facts are kept exactly as they were handed in, whatever they are, and documents are checked before
they are trusted.  A `Value` is such a piece of data: null, a boolean, a number, a text, a date or
timestamp, a list, or a mapping that keeps the order of its entries.

A configuration file can say more than a JSON document.  It can hold bytes, pairs and sets, its keys
may be any scalar, and a list or mapping may be part of itself.  The place where such a one comes
round to itself is a `Value.loop`, which says how far up it is: the list or mapping right around the
place has the number 0, the one around that the number 1, and so on.
-/

namespace Shortlist

/-- A key of a mapping. -/
inductive Key where
  | name (t : Text)
  | null
  | bool (b : Bool)
  | int (n : Int)
  | float (x : Double)
  | bytes (content : Text.Bytes)
  | date (d : Date)
  | timestamp (t : Timestamp)
deriving DecidableEq

/-- A piece of data. -/
inductive Value where
  | null
  | bool (b : Bool)
  | int (n : Int)
  | float (x : Double)
  | text (t : Text)
  | bytes (content : Text.Bytes)
  | date (d : Date)
  | timestamp (t : Timestamp)
  | list (items : List Value)
  | pair (first second : Value)
  | set (members : List Key)
  | mapping (entries : List (Key × Value))
  | loop (isMapping : Bool) (up : Nat)

instance : Inhabited Value := ⟨.null⟩

/-- The entries of a mapping, in order. -/
abbrev Entries := List (Key × Value)

namespace Entries

/-- The value under a name. -/
def get? (entries : Entries) (name : Text) : Option Value :=
  (entries.find? fun e => e.1 = .name name).map (·.2)

/-- Puts a value under a key: in the place of the value that was there, or at the end. -/
def put (key : Key) (value : Value) : Entries → Entries
  | [] => [(key, value)]
  | e :: rest => if e.1 = key then (key, value) :: rest else e :: put key value rest

/-- The mapping built by putting the entries one by one, so that of equal keys the last value and
the first place stand. -/
def ofList (entries : List (Key × Value)) : Entries :=
  entries.foldl (fun es e => put e.1 e.2 es) []

end Entries

namespace Value

/-- A mapping with text keys. -/
def record (fields : List (String × Value)) : Value :=
  .mapping (fields.map fun f => (.name f.1, f.2))

/-- The text, or null. -/
def ofText? : Option Text → Value
  | none => .null
  | some t => .text t

/-- The number that a value is: an integer that is no boolean, or a finite double. -/
def number? : Value → Option Number
  | .int n => some (.int n)
  | .float (.finite x) => some (.double x)
  | _ => none

/-- Whether a value is a number. -/
def isNumber (v : Value) : Bool := v.number?.isSome

/-- Whether a value counts as absent where a setting is looked up: null, false, zero, and what holds
nothing. -/
def isEmpty : Value → Bool
  | .null => true
  | .bool b => !b
  | .int n => n = 0
  | .float (.finite x) => x.rank = 0
  | .text t => t.isEmpty
  | .bytes content => content.isEmpty
  | .list items => items.isEmpty
  | .set members => members.isEmpty
  | .mapping entries => entries.isEmpty
  | _ => false

/-- The value that a key is. -/
def ofKey : Key → Value
  | .name t => .text t
  | .null => .null
  | .bool b => .bool b
  | .int n => .int n
  | .float x => .float x
  | .bytes content => .bytes content
  | .date d => .date d
  | .timestamp t => .timestamp t

/-- The values that a value consists of, if it can be gone through: the items of a list, the keys of
a mapping, the characters of a text. -/
def parts? : Value → Option (List Value)
  | .list items => some items
  | .pair first second => some [first, second]
  | .set members => some (members.map ofKey)
  | .mapping entries => some (entries.map fun e => ofKey e.1)
  | .text t => some (t.points.map fun p => .text ⟨[p]⟩)
  | .bytes content => some (content.map fun b => .int b.toNat)
  | .loop .. => some []
  | .null | .bool _ | .int _ | .float _ | .date _ | .timestamp _ => none

/-- The word for the kind of a value in messages. -/
def kindWord : Value → String
  | .null => "NoneType"
  | .bool _ => "bool"
  | .int _ => "int"
  | .float _ => "float"
  | .text _ => "str"
  | .bytes _ => "bytes"
  | .date _ => "date"
  | .timestamp _ => "datetime"
  | .list _ | .loop false _ => "list"
  | .pair .. => "tuple"
  | .set _ => "set"
  | .mapping _ | .loop true _ => "dict"

/-- The word for the kind of a value that cannot be gone through. -/
def fullKindWord : Value → String
  | .date _ => "datetime.date"
  | .timestamp _ => "datetime.datetime"
  | v => v.kindWord

end Value

end Shortlist
