import Shortlist.Value.Display

/-!
# Values as records hold them

Before a value is written to a record, an output file or an audit trail it is reduced to what JSON
can hold: a number that is not finite becomes null, a date or timestamp becomes its text, bytes
become the text that they encode, a pair or set becomes a list, and the keys of a mapping become
texts.

Two keys of a mapping may have one text.  A record line then holds both entries; everywhere else the
last value stands in the first place.  `Value.plain` is the reduction that keeps both and
`Value.dump` the one that merges them.  `Value.IsPlain` says which values `plain` leaves alone.

Some values cannot be reduced: those that are part of themselves, those that are nested too deeply,
and those with bytes that encode no text or with a key that has none.  `Value.plainFault?` finds
the first reason, in the order in which the value is written.
-/

namespace Shortlist

namespace Value

/-- The offset of a timestamp in a record, in hours and minutes; what is no whole second before that
is rounded, and zero is marked by `Z`. -/
def recordOffset (micros : Int) : List Char :=
  let seconds := (micros.natAbs + 500000) / 1000000
  if seconds = 0 then ['Z']
  else
    (if micros < 0 then '-' else '+') :: zeroPadded 2 (seconds / 3600)
      ++ ':' :: zeroPadded 2 (seconds / 60 % 60)

/-- The text of a timestamp in a record. -/
def recordTimestamp (t : Timestamp) : List Char :=
  t.date.write ++ 'T' :: t.time.write ++ match t.offset with
    | none => []
    | some offset => recordOffset offset

/-- The text that bytes encode, up to the first fault. -/
def recordBytes (content : Text.Bytes) : Text := .ofChars (Text.decodeUtf8 content).chars

/-- The text of a key in a record. -/
def recordKey : Key → Text
  | .name t => t
  | .null => "None"
  | .bool b => if b then "true" else "false"
  | .int n => .ofChars (intChars n)
  | .float x => if x.isFinite then .ofChars x.display else "None"
  | .bytes content => recordBytes content
  | .date d => .ofChars d.write
  | .timestamp t => .ofChars (recordTimestamp t)

/-- The value that a record holds for a member of a set. -/
def plainKey : Key → Value
  | .name t => .text t
  | .null => .null
  | .bool b => .bool b
  | .int n => .int n
  | .float x => if x.isFinite then .float x else .null
  | .bytes content => .text (recordBytes content)
  | .date d => .text (.ofChars d.write)
  | .timestamp t => .text (.ofChars (recordTimestamp t))

mutual

/-- The value that a record line holds for a value. -/
def plain : Value → Value
  | .float (.finite x) => .float (.finite x)
  | .float _ => .null
  | .bytes content => .text (recordBytes content)
  | .date d => .text (.ofChars d.write)
  | .timestamp t => .text (.ofChars (recordTimestamp t))
  | .list items => .list (plainAll items)
  | .pair first second => .list [plain first, plain second]
  | .set members => .list (members.map plainKey)
  | .mapping entries => .mapping (plainEntries entries)
  | .null | .loop .. => .null
  | .bool b => .bool b
  | .int n => .int n
  | .text t => .text t

/-- The values of a list, reduced. -/
def plainAll : List Value → List Value
  | [] => []
  | v :: rest => plain v :: plainAll rest

/-- The entries of a mapping, reduced. -/
def plainEntries : List (Key × Value) → List (Key × Value)
  | [] => []
  | (k, v) :: rest => (.name (recordKey k), plain v) :: plainEntries rest

end

mutual

/-- The value with the entries of equal keys merged, at all levels. -/
def merged : Value → Value
  | .list items => .list (mergedAll items)
  | .mapping entries => .mapping (Entries.ofList (mergedEntries entries))
  | .pair first second => .pair (merged first) (merged second)
  | .null => .null
  | .bool b => .bool b
  | .int n => .int n
  | .float x => .float x
  | .text t => .text t
  | .bytes content => .bytes content
  | .date d => .date d
  | .timestamp t => .timestamp t
  | .set members => .set members
  | .loop isMapping up => .loop isMapping up

/-- The values of a list, merged. -/
def mergedAll : List Value → List Value
  | [] => []
  | v :: rest => merged v :: mergedAll rest

/-- The entries of a mapping, their values merged. -/
def mergedEntries : List (Key × Value) → List (Key × Value)
  | [] => []
  | (k, v) :: rest => (k, merged v) :: mergedEntries rest

end

/-- The value that everything but a record line holds for a value. -/
def dump (v : Value) : Value := v.plain.merged

/-! ## Values that cannot be reduced -/

/-- Why a value cannot be reduced. -/
inductive PlainFault where
  | undecodable (fault : Text.Utf8Fault)
  | undecodableKey (fault : Text.Utf8Fault)
  | unencodable (fault : Text.Unencodable)
  | keyTooLong
  | tooDeep
  | circular
deriving DecidableEq

/-- The greatest number of values inside one another that are reduced. -/
def depthLimit : Nat := 255

/-- What is wrong with bytes that should encode a text. -/
def bytesFault? (content : Text.Bytes) : Option Text.Utf8Fault := (Text.decodeUtf8 content).fault

/-- Why a key has no text in a record. -/
def keyFault? : Key → Option PlainFault
  | .name t => t.unencodable?.map .unencodable
  | .int n => if digitCount n.natAbs > integerDigitLimit then some .keyTooLong else none
  | .bytes content => (bytesFault? content).map .undecodableKey
  | .null | .bool _ | .float _ | .date _ | .timestamp _ => none

/-- Why a text cannot stand in the result, if that has to be encoded. -/
def textFault? (encoded : Bool) (t : Text) : Option PlainFault :=
  if encoded then t.unencodable?.map .unencodable else none

/-- Why a member of a set cannot be reduced at a depth at which so many more levels are allowed. -/
def memberFault? (encoded : Bool) (levels : Nat) (member : Key) : Option PlainFault :=
  if levels = 0 then some .tooDeep
  else match member with
    | .bytes content => (bytesFault? content).map .undecodable
    | .name t => textFault? encoded t
    | _ => none

mutual

/-- The first reason why a value cannot be reduced at a depth at which so many more levels are
allowed.  A result that is `encoded` may hold no surrogates. -/
def plainFault? (encoded : Bool) : Nat → Value → Option PlainFault
  | _, .loop .. => some .circular
  | 0, _ => some .tooDeep
  | _ + 1, .text t => textFault? encoded t
  | _ + 1, .bytes content => (bytesFault? content).map .undecodable
  | levels + 1, .list items => plainFaultAll? encoded levels items
  | levels + 1, .pair first second =>
    match plainFault? encoded levels first with
    | some fault => some fault
    | none => plainFault? encoded levels second
  | levels + 1, .set members => members.findSome? (memberFault? encoded levels)
  | levels + 1, .mapping entries => plainFaultEntries? encoded levels entries
  | _ + 1, .null | _ + 1, .bool _ | _ + 1, .int _ | _ + 1, .float _ | _ + 1, .date _
  | _ + 1, .timestamp _ => none

/-- The first reason among the values of a list. -/
def plainFaultAll? (encoded : Bool) : Nat → List Value → Option PlainFault
  | _, [] => none
  | levels, v :: rest =>
    match plainFault? encoded levels v with
    | some fault => some fault
    | none => plainFaultAll? encoded levels rest

/-- The first reason among the keys and values of a mapping. -/
def plainFaultEntries? (encoded : Bool) : Nat → List (Key × Value) → Option PlainFault
  | _, [] => none
  | levels, (k, v) :: rest =>
    match keyFault? k with
    | some fault => some fault
    | none =>
      match plainFault? encoded levels v with
      | some fault => some fault
      | none => plainFaultEntries? encoded levels rest

end

/-- The message about a value that cannot be reduced. -/
def PlainFault.message : PlainFault → String
  | .undecodable f | .undecodableKey f => f.briefMessage
  | .unencodable f => f.message
  | .keyTooLong => IntegerTooLong.mk.message
  | .tooDeep => "Maximum serialization depth exceeded"
  | .circular => "Circular reference detected (id repeated)"

/-- The value that everything but a record line holds for a value in which so many levels are
allowed. -/
def dump? (levels : Nat) (v : Value) : Except PlainFault Value :=
  match v.plainFault? false levels with
  | some fault => .error fault
  | none => .ok v.dump

/-! ## Plain values -/

mutual

/-- Whether a value consists of what JSON can hold, all numbers being finite. -/
def isPlain : Value → Bool
  | .float x => x.isFinite
  | .bytes _ | .date _ | .timestamp _ | .pair .. | .set _ | .loop .. => false
  | .list items => allPlain items
  | .mapping entries => allPlainEntries entries
  | .null | .bool _ | .int _ | .text _ => true

/-- Whether all values of a list are plain. -/
def allPlain : List Value → Bool
  | [] => true
  | v :: rest => isPlain v && allPlain rest

/-- Whether all entries of a mapping are plain and have text keys. -/
def allPlainEntries : List (Key × Value) → Bool
  | [] => true
  | (k, v) :: rest =>
    (match k with
      | .name _ => true
      | _ => false) && isPlain v && allPlainEntries rest

end

/-- A value that consists of what JSON can hold, all numbers being finite. -/
def IsPlain (v : Value) : Prop := v.isPlain = true

end Value

end Shortlist
