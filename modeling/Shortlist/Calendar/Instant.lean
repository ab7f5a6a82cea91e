import Shortlist.Calendar.Date

/-!
# Times of day, timestamps and instants

A `Timestamp` is a date with a time of day and, possibly, an offset from universal time; it is what
a value may hold.  An `Instant` is a point in time: it always has a zone.  Instants are compared
by `Instant.epochMillis`, the whole milliseconds since the beginning of 1970, rounded down.

The zone of universal time is kept apart from a fixed offset of zero, because the two are
written differently.  An offset of a whole day can be read from a text but not be used: see
`Instant.checked`.
-/

namespace Shortlist

/-- A time of day, to the microsecond. -/
structure TimeOfDay where
  hour : Nat
  minute : Nat
  second : Nat
  micro : Nat
  hour_lt : hour < 24
  minute_lt : minute < 60
  second_lt : second < 60
  micro_lt : micro < 1000000
deriving DecidableEq

namespace TimeOfDay

/-- The time with the given fields, if there is one. -/
def ofFields? (hour minute second micro : Nat) : Option TimeOfDay :=
  if h : hour < 24 ∧ minute < 60 ∧ second < 60 ∧ micro < 1000000 then
    some ⟨hour, minute, second, micro, h.1, h.2.1, h.2.2.1, h.2.2.2⟩
  else none

/-- The beginning of the day. -/
def midnight : TimeOfDay := ⟨0, 0, 0, 0, by decide, by decide, by decide, by decide⟩

/-- The microseconds since the beginning of the day. -/
def micros (t : TimeOfDay) : Nat :=
  (t.hour * 3600 + t.minute * 60 + t.second) * 1000000 + t.micro

end TimeOfDay

/-- A date and time as a value may hold it; `offset` is in microseconds east of universal time. -/
structure Timestamp where
  date : Date
  time : TimeOfDay
  offset : Option Int
deriving DecidableEq

/-- Universal time, or a fixed offset in microseconds east of it. -/
inductive Zone where
  | utc
  | fixed (micros : Int)
deriving DecidableEq

namespace Zone

/-- The zone with an offset of whole seconds. -/
def ofSeconds (seconds : Int) : Zone := .fixed (seconds * 1000000)

/-- The offset of a zone in microseconds. -/
def micros : Zone → Int
  | .utc => 0
  | .fixed offset => offset

end Zone

/-- A point in time, given by local fields and a zone. -/
structure Instant where
  date : Date
  time : TimeOfDay
  zone : Zone
deriving DecidableEq

/-- An offset of a whole day or more, which no zone has. -/
structure OffsetOutOfRange where
  micros : Int
deriving DecidableEq

/-- The message about an offset that no zone has. -/
def OffsetOutOfRange.message (_ : OffsetOutOfRange) : String :=
  "offset must be a timedelta strictly between -timedelta(hours=24) and timedelta(hours=24)."

namespace Instant

/-- The microseconds since the beginning of 1970. -/
def epochMicros (t : Instant) : Int :=
  t.date.epochDay * 86400000000 + t.time.micros - t.zone.micros

/-- The whole milliseconds since the beginning of 1970, rounded down. -/
def epochMillis (t : Instant) : Int := t.epochMicros / 1000

/-- Whether the offset of the zone is shorter than a day. -/
def hasUsableOffset (t : Instant) : Bool := t.zone.micros.natAbs < 86400000000

/-- The instant, if its offset can be used. -/
def checked (t : Instant) : Except OffsetOutOfRange Instant :=
  if t.hasUsableOffset then .ok t else .error ⟨t.zone.micros⟩

/-- The instant at the beginning of a day in universal time. -/
def ofDate (d : Date) : Instant := ⟨d, .midnight, .utc⟩

/-- The instant of a timestamp.  Without an offset it is taken as universal time, and an offset
of zero is universal time.  Of any other offset the whole seconds count. -/
def ofTimestamp (t : Timestamp) : Instant :=
  ⟨t.date, t.time, match t.offset with
    | none => .utc
    | some offset => if offset = 0 then .utc else .ofSeconds (offset.tdiv 1000000)⟩

/-- The instant in universal time that is so many microseconds after the beginning of 1970, if it is
in the years 1 to 9999. -/
def ofEpochMicros? (micros : Int) : Option Instant := do
  let seconds := micros / 1000000
  let second := (seconds % 86400).toNat
  let date ← Date.ofOrdinal? (seconds / 86400 + 719163).toNat
  let time ← TimeOfDay.ofFields? (second / 3600) (second / 60 % 60) (second % 60)
    (micros % 1000000).toNat
  return ⟨date, time, .utc⟩

/-- The same instant in universal time; where that is outside the years 1 to 9999, the instant is
left as it is. -/
def inUniversalTime (t : Instant) : Instant := (ofEpochMicros? t.epochMicros).getD t

end Instant

/-! ## Written forms -/

/-- The decimal digits of `n`, preceded by zeros up to the width. -/
def zeroPadded (width n : Nat) : List Char :=
  let ds := Nat.toDigits 10 n
  List.replicate (width - ds.length) '0' ++ ds

/-- The text `YYYY-MM-DD`. -/
def Date.write (d : Date) : List Char :=
  zeroPadded 4 d.year ++ '-' :: zeroPadded 2 d.month ++ '-' :: zeroPadded 2 d.day

/-- The text `HH:MM:SS`, with six digits of a fraction that is not zero. -/
def TimeOfDay.write (t : TimeOfDay) : List Char :=
  zeroPadded 2 t.hour ++ ':' :: zeroPadded 2 t.minute ++ ':' :: zeroPadded 2 t.second ++
    if t.micro = 0 then [] else '.' :: zeroPadded 6 t.micro

/-- The text of an offset: a sign, hours and minutes, seconds if there are any beyond these, and six
digits of a fraction that is not zero. -/
def writeOffset (offset : Int) : List Char :=
  let n := offset.natAbs / 1000000
  let micro := offset.natAbs % 1000000
  (if offset < 0 then '-' else '+') :: zeroPadded 2 (n / 3600) ++ ':' :: zeroPadded 2 (n / 60 % 60)
    ++ (if n % 60 = 0 && micro = 0 then [] else ':' :: zeroPadded 2 (n % 60))
    ++ if micro = 0 then [] else '.' :: zeroPadded 6 micro

/-- The text of an instant; universal time is marked by `Z`. -/
def Instant.write (t : Instant) : List Char :=
  t.date.write ++ 'T' :: t.time.write ++ match t.zone with
    | .utc => ['Z']
    | .fixed offset => writeOffset offset

/-- The text of a timestamp, with the given mark between date and time. -/
def Timestamp.write (separator : Char) (t : Timestamp) : List Char :=
  t.date.write ++ separator :: t.time.write ++ match t.offset with
    | none => []
    | some offset => writeOffset offset

end Shortlist
