import Shortlist.Value.Basic
import Shortlist.Yaml.Fault

/-!
# Dates and timestamps

A date has a year of four digits and a month and day of one or two.  A timestamp has a time of day
behind its date, and perhaps an offset.  `readTime` takes a text apart, and `timeOf` finds the day
and time that the parts name, or the part that no calendar has.
-/

namespace Shortlist.Yaml

/-- The parts of a written time of day; the offset is in seconds, and zero where `Z` stands. -/
structure WrittenClock where
  hour : Nat
  minute : Nat
  second : Nat
  micro : Nat
  offset : Option Int

/-- The parts of a written date or timestamp. -/
structure WrittenTime where
  year : Nat
  month : Nat
  day : Nat
  clock : Option WrittenClock

/-- Reads between `least` and `most` digits. -/
def takeNumber (least most : Nat) (cs : List Char) : Option (Nat × List Char) :=
  let digits := (cs.take most).takeWhile isDigit
  if digits.length < least then none else some (natOfDigits digits, cs.drop digits.length)

/-- Drops the given character. -/
def dropChar (c : Char) : List Char → Option (List Char)
  | x :: rest => if x = c then some rest else none
  | [] => none

/-- Drops spaces and tabs. -/
def dropGap (cs : List Char) : List Char := cs.dropWhile fun c => c = ' ' || c = '\t'

/-- The microseconds of a fraction of a second; further digits are cut off. -/
def fractionMicros (digits : List Char) : Nat :=
  natOfDigits ((digits ++ List.replicate 6 '0').take 6)

/-- Reads an offset that fills the text. -/
def readOffset (cs : List Char) : Option (Option Int) :=
  match dropGap cs with
  | [] => if cs = [] then some none else none
  | ['Z'] => some (some 0)
  | sign :: rest => do
    if sign ≠ '-' ∧ sign ≠ '+' then none
    let (hours, rest) ← takeNumber 1 2 rest
    let minutes ← match rest with
      | [] => some 0
      | _ => do
        let (minutes, rest) ← takeNumber 2 2 (← dropChar ':' rest)
        if rest.isEmpty then some minutes else none
    let seconds : Int := hours * 3600 + minutes * 60
    return some (if sign = '-' then -seconds else seconds)

/-- Reads the time of a timestamp, from what follows the date. -/
def readClock (cs : List Char) : Option WrittenClock := do
  let cs ← match cs with
    | c :: rest =>
      if c = 'T' || c = 't' then some rest
      else if c = ' ' || c = '\t' then some (dropGap rest)
      else none
    | [] => none
  let (hour, cs) ← takeNumber 1 2 cs
  let (minute, cs) ← takeNumber 2 2 (← dropChar ':' cs)
  let (second, cs) ← takeNumber 2 2 (← dropChar ':' cs)
  let (micro, cs) := match cs with
    | '.' :: rest =>
      let digits := rest.takeWhile isDigit
      (fractionMicros digits, rest.drop digits.length)
    | _ => (0, cs)
  let offset ← readOffset cs
  return ⟨hour, minute, second, micro, offset⟩

/-- Reads a date or timestamp.  Month and day may have one digit. -/
def readTime (cs : List Char) : Option WrittenTime := do
  let (year, cs) ← takeNumber 4 4 cs
  let (month, cs) ← takeNumber 1 2 (← dropChar '-' cs)
  let (day, cs) ← takeNumber 1 2 (← dropChar '-' cs)
  match cs with
  | [] => return ⟨year, month, day, none⟩
  | _ => return ⟨year, month, day, some (← readClock cs)⟩

/-- Whether a text looks like a date or timestamp; a date alone has two digits of month and day. -/
def looksTime (cs : List Char) : Bool :=
  match readTime cs with
  | some t => t.clock.isSome || cs.length = 10
  | none => false

/-- The day that the parts of a date name. -/
def WrittenTime.date (t : WrittenTime) : Except TimeFlaw Date := do
  if t.year = 0 then throw .year
  if t.month = 0 || 12 < t.month then throw .month
  match Date.ofFields? t.year t.month t.day with
  | none => throw .day
  | some date => return date

/-- The time of day that the parts of a clock name. -/
def WrittenClock.time (c : WrittenClock) : Except TimeFlaw TimeOfDay := do
  if 23 < c.hour then throw .hour
  if 59 < c.minute then throw .minute
  match TimeOfDay.ofFields? c.hour c.minute c.second c.micro with
  | none => throw .second
  | some time => return time

/-- The date or timestamp that its written parts name.  An offset is less than a day. -/
def timeOf (t : WrittenTime) : Except TimeFlaw Value := do
  match t.clock with
  | none => return .date (← t.date)
  | some clock =>
    match clock.offset with
    | none => pure ()
    | some seconds => if 86400 ≤ seconds.natAbs then throw (.offset seconds)
    return .timestamp ⟨← t.date, ← clock.time, clock.offset.map (· * 1000000)⟩

end Shortlist.Yaml
