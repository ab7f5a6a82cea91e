/-!
# Calendar dates

Dates of the proleptic Gregorian calendar in the years 1 to 9999.  A `Date` carries the proof that
its fields name a day, so no function below has to ask.  Days are counted from the first of
January of year 1, which is day 1 and a Monday.
-/

namespace Shortlist

/-- Whether a year has a twenty-ninth of February. -/
def isLeapYear (year : Nat) : Bool :=
  year % 4 = 0 && (year % 100 ≠ 0 || year % 400 = 0)

/-- The number of days of a month; zero for what is no month. -/
def monthLength (year month : Nat) : Nat :=
  match month with
  | 2 => if isLeapYear year then 29 else 28
  | 4 | 6 | 9 | 11 => 30
  | 1 | 3 | 5 | 7 | 8 | 10 | 12 => 31
  | _ => 0

/-- The number of days of a year. -/
def yearLength (year : Nat) : Nat := if isLeapYear year then 366 else 365

/-- A day of the calendar. -/
structure Date where
  year : Nat
  month : Nat
  day : Nat
  year_mem : 1 ≤ year ∧ year ≤ 9999
  day_mem : 1 ≤ day ∧ day ≤ monthLength year month
deriving DecidableEq

namespace Date

/-- The day with the given fields, if there is one. -/
def ofFields? (year month day : Nat) : Option Date :=
  if h : (1 ≤ year ∧ year ≤ 9999) ∧ 1 ≤ day ∧ day ≤ monthLength year month then
    some ⟨year, month, day, h.1, h.2⟩
  else none

/-- The number of days in the years before `year`. -/
def daysBeforeYear (year : Nat) : Nat :=
  let y := year - 1
  365 * y + y / 4 - y / 100 + y / 400

/-- The number of days in the months of `year` before `month`. -/
def daysBeforeMonth (year month : Nat) : Nat :=
  (List.range' 1 (month - 1)).foldr (monthLength year · + ·) 0

/-- The number of the day, with the first of January of year 1 as day 1. -/
def ordinal (d : Date) : Nat := daysBeforeYear d.year + daysBeforeMonth d.year d.month + d.day

/-- The number of the day, with the first of January of 1970 as day 0. -/
def epochDay (d : Date) : Int := (d.ordinal : Int) - 719163

/-- The day of the week, from 1 for Monday to 7 for Sunday. -/
def weekday (d : Date) : Nat := (d.ordinal - 1) % 7 + 1

/-- The month and day of the given day of a year, searched from `month` on. -/
def monthDay? (year : Nat) : List Nat → Nat → Option Date
  | [], _ => none
  | month :: rest, day =>
    if day ≤ monthLength year month then ofFields? year month day
    else monthDay? year rest (day - monthLength year month)

/-- The given day of a year, counted from 1. -/
def ofDayOfYear? (year day : Nat) : Option Date :=
  monthDay? year (List.range' 1 12) day

/-- The day with the given number, if it is in the years 1 to 9999. -/
def ofOrdinal? (n : Nat) : Option Date :=
  let near := (n * 400 + 146096) / 146097
  let year := if daysBeforeYear (near + 1) < n then near + 1
    else if daysBeforeYear near < n then near else near - 1
  if n ≤ daysBeforeYear year then none else ofDayOfYear? year (n - daysBeforeYear year)

/-- The day of an ISO week, which may lie in the year before or after.  Week 1 holds the fourth of
January; a week 53 exists only in years that begin on a Thursday, or on a Wednesday when leap. -/
def ofWeek? (year week weekday : Nat) : Option Date := do
  let first ← ofFields? year 1 1
  let long := first.weekday = 4 || (first.weekday = 3 && isLeapYear year)
  if week > 53 || (week = 53 && !long) || weekday > 7 then none
  let fourth ← ofFields? year 1 4
  let day : Int := (week : Int) * 7 + weekday - (fourth.weekday + 3)
  if day < 1 then
    let previous := year - 1
    ofDayOfYear? previous (day + yearLength previous).toNat
  else if day > yearLength year then ofDayOfYear? (year + 1) (day - yearLength year).toNat
  else ofDayOfYear? year day.toNat

end Date

end Shortlist
