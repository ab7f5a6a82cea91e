import Shortlist.Calendar.Instant
import Shortlist.Text.Blank
import Shortlist.Text.DecimalDigit

/-!
# Reading dates and times

A date text is tried as an ISO 8601 text first.  The forms are calendar dates, dates by day of the
year and dates by week, each in basic or extended form, alone or followed by a time with an optional
offset, and times of day alone.  A date in extended form may not be followed by a time in basic
form, nor a date in basic form by seconds in extended form; a time alone counts as basic if it
begins with `T`.  Durations and intervals are recognised but are no points in time.

What is left is tried as a loose form: a year, perhaps a month and a day with `/` or `:` or nothing
between them, then perhaps a time whose parts may have one digit.  The loose form accepts the digits
of every script.

## Contents

* `Reading`, what a text says: a date, a time of day, a date with a time, or a duration.
* `readIso?`, the ISO 8601 forms, and `readLoose?`, the loose form.
* `Moment.read?`, what a text stands for, and `Instant.read?`, the point in time that it denotes at
  a given time.
-/

namespace Shortlist.Calendar

/-- What a text says. -/
inductive Reading where
  | date (date : Date)
  | moment (date : Date) (time : TimeOfDay) (zone : Zone)
  | time (time : TimeOfDay)
  | duration
deriving DecidableEq

/-! ## Digits -/

/-- Reads exactly `n` digits with the given values. -/
def takeDigits (value : Char → Option Nat) : Nat → Nat → List Char → Option (Nat × List Char)
  | 0, acc, cs => some (acc, cs)
  | _ + 1, _, [] => none
  | n + 1, acc, c :: cs => (value c).bind fun d => takeDigits value n (acc * 10 + d) cs

/-- The value of an ASCII digit. -/
def asciiDigit (c : Char) : Option Nat :=
  if '0' ≤ c ∧ c ≤ '9' then some (c.toNat - '0'.toNat) else none

/-- Reads exactly `n` ASCII digits. -/
def number (n : Nat) (cs : List Char) : Option (Nat × List Char) := takeDigits asciiDigit n 0 cs

/-- The microseconds that the digits of a fraction say: six digits count. -/
def fractionMicros (digits : List Nat) : Nat :=
  (digits.take 6 ++ List.replicate (6 - digits.length) 0).foldl (fun n d => n * 10 + d) 0

/-- Reads a point or comma and the digits of a fraction, if there are any. -/
def fraction (cs : List Char) : Option (Nat × List Char) :=
  match cs with
  | c :: rest =>
    if c = '.' ∨ c = ',' then
      let digits := (rest.takeWhile fun c => (asciiDigit c).isSome).filterMap asciiDigit
      if digits = [] then none
      else some (fractionMicros digits, rest.dropWhile fun c => (asciiDigit c).isSome)
    else some (0, cs)
  | [] => some (0, [])

/-! ## Dates -/

/-- Whether a date ends here: at the end of the text or before a time. -/
def endsDate : List Char → Bool
  | [] => true
  | c :: _ => c = ' ' || c = 'T'

/-- Reads what follows the year and a hyphen. -/
def extendedDate (year : Nat) (cs : List Char) : Option (Date × List Char) :=
  match cs with
  | 'W' :: cs => do
    let (week, cs) ← number 2 cs
    if endsDate cs then return (← Date.ofWeek? year week 1, cs)
    match cs with
    | '-' :: cs =>
      let (day, cs) ← number 1 cs
      return (← Date.ofWeek? year week day, cs)
    | _ => none
  | _ => do
    let (month, cs) ← number 2 cs
    if endsDate cs then return (← Date.ofFields? year month 1, cs)
    match cs with
    | '-' :: cs =>
      let (day, cs) ← number 2 cs
      return (← Date.ofFields? year month day, cs)
    | _ =>
      let (last, cs) ← number 1 cs
      return (← Date.ofDayOfYear? year (month * 10 + last), cs)

/-- Reads what follows the year in a basic form. -/
def basicDate (year : Nat) (cs : List Char) : Option (Date × List Char) :=
  match cs with
  | 'W' :: cs => do
    let (week, cs) ← number 2 cs
    if endsDate cs then return (← Date.ofWeek? year week 1, cs)
    let (day, cs) ← number 1 cs
    return (← Date.ofWeek? year week day, cs)
  | _ => do
    let (leading, cs) ← number 3 cs
    if endsDate cs then return (← Date.ofDayOfYear? year leading, cs)
    let (last, cs) ← number 1 cs
    return (← Date.ofFields? year (leading / 10) (leading % 10 * 10 + last), cs)

/-! ## Times -/

/-- The forms in which dates and times are written. -/
inductive Form where
  | basic
  | extended
deriving DecidableEq

/-- Whether the clock time ends here: at the end of the text or before an offset. -/
def endsTime : List Char → Bool
  | [] => true
  | c :: _ => c = 'Z' || c = '+' || c = '-'

/-- Reads minutes and seconds after the hour.  `form` is the form of what stands in front: seconds
after a colon follow only the extended form, and minutes without one only the basic form. -/
def minutes (form : Form) (hour : Nat) (cs : List Char) : Option (TimeOfDay × List Char) :=
  if endsTime cs then (TimeOfDay.ofFields? hour 0 0 0).map (·, cs)
  else match cs with
    | ':' :: cs => do
      let (minute, cs) ← number 2 cs
      match cs with
      | ':' :: cs =>
        if form = .basic then none
        let (second, cs) ← number 2 cs
        let (micro, cs) ← fraction cs
        return (← TimeOfDay.ofFields? hour minute second micro, cs)
      | _ => return (← TimeOfDay.ofFields? hour minute 0 0, cs)
    | _ => do
      let (minute, cs) ← number 2 cs
      if form = .extended then none
      if endsTime cs then return (← TimeOfDay.ofFields? hour minute 0 0, cs)
      let (second, cs) ← number 2 cs
      let (micro, cs) ← fraction cs
      return (← TimeOfDay.ofFields? hour minute second micro, cs)

/-- Reads the minutes of an offset, which may be left out even after a colon. -/
def offsetMinutes (cs : List Char) : Option Nat :=
  let cs := match cs with
    | ':' :: rest => rest
    | _ => cs
  match cs with
  | [] => some 0
  | cs => (number 2 cs).bind fun (m, rest) => if rest = [] then some m else none

/-- Reads the offset at the end of a time; none means universal time.  An offset of more than a day
to the east is refused. -/
def zone (cs : List Char) : Option Zone :=
  match cs with
  | [] => some .utc
  | ['Z'] => some .utc
  | sign :: cs =>
    if sign = '+' ∨ sign = '-' then do
      let (hours, cs) ← number 2 cs
      let minutes ← offsetMinutes cs
      let size : Int := hours * 3600 + minutes * 60
      let seconds := if sign = '-' then -size else size
      if seconds > 86400 then none
      some (.ofSeconds seconds)
    else none

/-! ## Durations -/

/-- The units whose presence rules out that a unit follows, before and after the mark `T`; none for
what is no unit. -/
def excludedBy (afterMark : Bool) (unit : Char) : Option (List Char) :=
  if afterMark then
    match unit with
    | 'H' => some ['M', 'S']
    | 'M' => some ['S']
    | 'S' => some []
    | _ => none
  else
    match unit with
    | 'Y' => some ['M', 'D']
    | 'M' => some ['D']
    | 'W' => some ['Y', 'M']
    | 'D' => some ['W']
    | _ => none

/-- Whether a unit may follow the units that were given with a number other than zero. -/
def unitFits (afterMark : Bool) (given : List Char) (unit : Char) : Bool :=
  match excludedBy afterMark unit with
  | some units => units.all fun u => !given.contains u
  | none => false

/-- Whether what follows the mark `P` is a duration.  A number is counted modulo `2 ^ 32`; only the
last one may have a fraction, and not with years or months. -/
def isDurationBody : Nat → Bool → List Char → Bool → List Char → Bool
  | 0, _, _, _, _ => false
  | fuel + 1, afterMark, given, hadFraction, cs =>
    match cs with
    | 'T' :: rest =>
      !afterMark && (rest.isEmpty || isDurationBody fuel true [] hadFraction rest)
    | _ =>
      let digit := fun c => (asciiDigit c).isSome
      let whole := cs.takeWhile digit
      let rest := cs.dropWhile digit
      let hasFraction := match rest with
        | c :: _ => c = '.' || c = ','
        | [] => false
      let rest := if hasFraction then rest.tail.dropWhile digit else rest
      if whole.isEmpty || hadFraction then false
      else match rest with
        | [] => false
        | unit :: rest =>
          let value := whole.foldl (fun n c => n * 10 + (c.toNat - '0'.toNat)) 0 % 2 ^ 32
          let fractionFits := !hasFraction || afterMark || (unit != 'Y' && unit != 'M')
          if unitFits afterMark given unit && fractionFits then
            let given := if value = 0 then given else unit :: given
            rest.isEmpty || isDurationBody fuel afterMark given hasFraction rest
          else false

/-- Whether a text is a duration. -/
def isDuration : List Char → Bool
  | 'P' :: cs => isDurationBody (cs.length + 1) false [] false cs
  | _ => false

/-! ## ISO 8601 texts -/

/-- Reads a time of day that stands alone, from after the hour; its offset is checked. -/
def timeAlone (form : Form) (hour : Nat) (cs : List Char) : Option Reading := do
  let (time, cs) ← minutes form hour cs
  let _ ← zone cs
  return .time time

/-- Reads the time after a date, if there is one. -/
def afterDate (form : Form) (date : Date) (cs : List Char) : Option Reading :=
  match cs with
  | [] => some (.date date)
  | mark :: cs =>
    if mark = 'T' ∨ mark = ' ' then do
      let (hour, cs) ← number 2 cs
      let (time, cs) ← minutes form hour cs
      return .moment date time (← zone cs)
    else none

/-- Reads an ISO 8601 date, time or duration. -/
def readIso? (cs : List Char) : Option Reading :=
  match cs with
  | 'P' :: _ => if isDuration cs then some .duration else none
  | 'T' :: cs => do
    let (hour, cs) ← number 2 cs
    timeAlone .basic hour cs
  | _ => do
    let (century, cs) ← number 2 cs
    match cs with
    | ':' :: _ => timeAlone .extended century cs
    | _ =>
      let (rest, cs) ← number 2 cs
      let year := century * 100 + rest
      match cs with
      | '-' :: cs =>
        let (date, cs) ← extendedDate year cs
        afterDate .extended date cs
      | _ =>
        let (date, cs) ← basicDate year cs
        afterDate .basic date cs

/-! ## The loose form -/

/-- Reads one or two digits of any script. -/
def shortNumber (cs : List Char) : Option (Nat × List Char) :=
  match takeDigits Text.digitValue? 2 0 cs with
  | some r => some r
  | none => takeDigits Text.digitValue? 1 0 cs

/-- Drops a separator of a loose date. -/
def dropDateMark : List Char → List Char
  | c :: cs => if c = '/' ∨ c = ':' then cs else c :: cs
  | [] => []

/-- Reads up to nine digits of a fraction at the end of a loose time. -/
def looseFraction : List Char → Option Nat
  | [] => some 0
  | mark :: cs =>
    let digits := cs.filterMap Text.digitValue?
    if (mark = '.' ∨ mark = '|' ∨ mark = ',') ∧ digits.length = cs.length ∧ 1 ≤ cs.length
        ∧ cs.length ≤ 9 then
      some (fractionMicros digits)
    else none

/-- A loose time that fills the text; a time without minutes fits the form but says no time. -/
def looseTime (cs : List Char) : Option (Option (Nat × Nat × Nat × Nat)) := do
  let cs := match cs with
    | ' ' :: rest => rest
    | _ => cs
  let (hour, cs) ← shortNumber cs
  match cs with
  | ':' :: cs =>
    let (minute, cs) := match shortNumber cs with
      | some (m, cs) => (some m, cs)
      | none => (none, cs)
    let (second, cs) := match cs with
      | ':' :: rest =>
        match shortNumber rest with
        | some (s, rest) => (s, rest)
        | none => (0, cs)
      | _ => (0, cs)
    let micro ← looseFraction cs
    return minute.map fun minute => (hour, minute, second, micro)
  | _ => none

/-- The dates with which a text may begin in the loose form, in order of preference, with what
follows: year, month and day, a year alone, no date. -/
def looseDates (cs : List Char) : List (Option (Nat × Nat × Nat) × List Char) :=
  match takeDigits Text.digitValue? 4 0 cs with
  | none => [(none, cs)]
  | some (year, rest) =>
    let full : Option (Option (Nat × Nat × Nat) × List Char) := do
      let (month, cs) ← takeDigits Text.digitValue? 2 0 (dropDateMark rest)
      let (day, cs) ← takeDigits Text.digitValue? 2 0 (dropDateMark cs)
      return (some (year, month, day), cs)
    full.toList ++ [(some (year, 1, 1), rest), (none, cs)]

/-- Reads the loose form. -/
def readLoose? (cs : List Char) : Option Reading :=
  let fits := (looseDates cs).findSome? fun (date, rest) =>
    if rest.isEmpty && date.isSome then some (date, none)
    else (looseTime rest).map fun time => (date, some time)
  match fits with
  | none => none
  | some (none, none) => none
  | some (some (year, month, day), none) => (Date.ofFields? year month day).map .date
  | some (_, some none) => none
  | some (date, some (some (hour, minute, second, micro))) => do
    let time ← TimeOfDay.ofFields? hour minute second micro
    match date with
    | none => return .time time
    | some (year, month, day) => return .moment (← Date.ofFields? year month day) time .utc

/-- Reads a text that is not an interval. -/
def read? (cs : List Char) : Option Reading := (readIso? cs).orElse fun _ => readLoose? cs

/-- Whether a text is an interval from a duration to a duration, which has no end on the time
line. -/
def isDurationPair (cs : List Char) : Bool :=
  let first := cs.takeWhile (· ≠ '/')
  let second := (cs.dropWhile (· ≠ '/')).tail
  isDuration first && isDuration second

end Shortlist.Calendar

namespace Shortlist

/-- The text is an interval that lacks both ends. -/
inductive DurationPair where
  | mk
deriving DecidableEq

/-- What a date text stands for: an instant that is fixed by the text alone, a time of the day on
which it is read, or the time at which it is read. -/
inductive Moment where
  | fixed (instant : Instant)
  | today (time : TimeOfDay)
  | present
deriving DecidableEq

namespace Moment

/-- The moment that a text stands for.  Surrounding blanks do not count, and dates and times without
an offset are taken as universal time.  A text that names no moment gives `none`. -/
def read? (text : String) : Except DurationPair (Option Moment) :=
  let cs := Text.trim text.toList
  if cs = ['n', 'o', 'w'] then .ok (some .present)
  else if cs.contains '/' && Calendar.isDurationPair cs then .error .mk
  else .ok ((Calendar.read? cs).bind fun
    | .date d => some (.fixed (.ofDate d))
    | .moment d t z => some (.fixed ⟨d, t, z⟩)
    | .time t => some (.today t)
    | .duration => none)

/-- The instant that a moment is when it is read at the time `now`. -/
def instant (now : Instant) : Moment → Instant
  | .fixed t => t
  | .today time => ⟨now.date, time, .utc⟩
  | .present => now

end Moment

/-- The instant that a text denotes when it is read at the time `now`. -/
def Instant.read? (now : Instant) (text : String) : Except DurationPair (Option Instant) :=
  (Moment.read? text).map (·.map (·.instant now))

end Shortlist
