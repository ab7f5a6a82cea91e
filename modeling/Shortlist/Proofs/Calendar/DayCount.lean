import Mathlib.Data.Nat.ModEq
import Mathlib.Tactic.SplitIfs
import Shortlist.Calendar.Instant

/-!
# Counting days

The number of a day is defined here by counting: the first of January of 1970 is day 0, and going on
to the next day of the calendar, or back to the one before, changes the number by one
(`Date.IsDay`).  What the next day is depends on the length of months alone (`Date.IsFollowedBy`).

`Date.epochDay` computes that number in closed form (`Date.isDay_iff`).  Every day can be reached by
counting, since each one but the first has a day before it; and the closed form goes up by one from
day to day, over the ends of months and years (`Date.IsFollowedBy.ordinal`).

`Instant.IsAt` is the place of an instant on the time line, in microseconds in universal time.  It
may lie before year 1 or after year 9999.
-/

namespace Shortlist

/-! ## Months and years -/

lemma month_mem_of_monthLength {year month : Nat} (h : 1 ≤ monthLength year month) :
    1 ≤ month ∧ month ≤ 12 := by
  unfold monthLength at h
  split at h <;> omega

lemma monthLength_pos {year month : Nat} (h : 1 ≤ month ∧ month ≤ 12) :
    1 ≤ monthLength year month := by
  unfold monthLength
  split
  · split_ifs <;> omega
  all_goals grind

lemma monthLength_le (year month : Nat) : monthLength year month ≤ 31 := by
  unfold monthLength
  split
  · split_ifs <;> omega
  all_goals omega

lemma isLeapYear_iff {year : Nat} :
    isLeapYear year = true ↔ 4 ∣ year ∧ (¬100 ∣ year ∨ 400 ∣ year) := by
  simp [isLeapYear, Nat.dvd_iff_mod_eq_zero]

namespace Date

lemma month_mem (d : Date) : 1 ≤ d.month ∧ d.month ≤ 12 :=
  month_mem_of_monthLength (Nat.le_trans d.day_mem.1 d.day_mem.2)

lemma day_le (d : Date) : d.day ≤ 31 :=
  Nat.le_trans d.day_mem.2 (monthLength_le d.year d.month)

lemma daysBeforeYear_succ {year : Nat} (h : 1 ≤ year) :
    daysBeforeYear (year + 1) = daysBeforeYear year + yearLength year := by
  obtain ⟨y, rfl⟩ := Nat.exists_eq_add_of_le' h
  have hle : y / 100 ≤ y / 4 := Nat.div_le_div_left (by decide) (by decide)
  -- each quotient goes up by one exactly in the years that it counts
  simp only [daysBeforeYear, Nat.add_sub_cancel, yearLength, isLeapYear_iff, Nat.succ_div]
  generalize y / 4 = q, y / 100 = c, y / 400 = r at *
  split_ifs <;> omega

lemma daysBeforeMonth_succ (year : Nat) {month : Nat} (h : 1 ≤ month) :
    daysBeforeMonth year (month + 1) = daysBeforeMonth year month + monthLength year month := by
  obtain ⟨m, rfl⟩ := Nat.exists_eq_add_of_le' h
  have hsum (months : List Nat) (n : Nat) : months.foldr (monthLength year · + ·) n
      = months.foldr (monthLength year · + ·) 0 + n := by
    induction months with
    | nil => simp
    | cons month months ih => rw [List.foldr_cons, List.foldr_cons, ih, Nat.add_assoc]
  have hrange : List.range' 1 (m + 1) = List.range' 1 m ++ [m + 1] := by
    rw [List.range'_concat, Nat.one_mul, Nat.add_comm 1 m]
  unfold daysBeforeMonth
  rw [Nat.add_sub_cancel, Nat.add_sub_cancel, hrange, List.foldr_append, hsum]
  rfl

lemma daysBeforeMonth_twelve (year : Nat) : daysBeforeMonth year 12 + 31 = yearLength year := by
  have hsum : daysBeforeMonth year 12
      = 31 + (monthLength year 2 + (31 + (30 + (31 + (30 + (31 + (31 + (30 + (31 + 30))))))))) :=
        rfl
  have hfebruary : monthLength year 2 = if isLeapYear year then 29 else 28 := rfl
  rw [hsum, hfebruary, yearLength]
  split_ifs <;> omega

/-! ## The next day -/

/-- The second day is the next one in the calendar: the next of the month, or the first of the next
month after the last of a month, or the first of January after the last of December. -/
inductive IsFollowedBy (d d' : Date) : Prop where
  | day (year : d'.year = d.year) (month : d'.month = d.month) (day : d'.day = d.day + 1)
  | month (last : d.day = monthLength d.year d.month) (year : d'.year = d.year)
    (month : d'.month = d.month + 1) (day : d'.day = 1)
  | year (last : d.month = 12 ∧ d.day = 31) (year : d'.year = d.year + 1)
    (month : d'.month = 1) (day : d'.day = 1)

variable {d d' : Date} {n : Int}

/-- The number of the next day is greater by one. -/
theorem IsFollowedBy.ordinal (h : d.IsFollowedBy d') : d'.ordinal = d.ordinal + 1 := by
  cases h with
  | day hyear hmonth hday =>
    simp only [Date.ordinal, hyear, hmonth, hday]
    omega
  | month hlast hyear hmonth hday =>
    simp only [Date.ordinal, hyear, hmonth, hday, daysBeforeMonth_succ _ d.month_mem.1]
    omega
  | year hlast hyear hmonth hday =>
    have hdecember := daysBeforeMonth_twelve d.year
    have hjanuary : daysBeforeMonth (d.year + 1) 1 = 0 := rfl
    simp only [Date.ordinal, hyear, hmonth, hday, hlast, hjanuary,
      daysBeforeYear_succ d.year_mem.1]
    omega

lemma IsFollowedBy.epochDay (h : d.IsFollowedBy d') : d'.epochDay = d.epochDay + 1 := by
  unfold Date.epochDay
  rw [h.ordinal]
  omega

/-- The first day of the calendar. -/
def first : Date := (ofFields? 1 1 1).get rfl

/-- Every day but the first one is the next day of some day. -/
lemma eq_first_or_isFollowedBy (d : Date) : d = first ∨ ∃ p : Date, p.IsFollowedBy d := by
  obtain ⟨year, month, day, hyear, hday⟩ := d
  have hmonth := month_mem_of_monthLength (Nat.le_trans hday.1 hday.2)
  by_cases hd : day = 1
  · by_cases hm : month = 1
    · by_cases hy : year = 1
      · subst hd hm hy
        exact .inl rfl
      · -- the first of January comes after the last of December
        exact .inr ⟨⟨year - 1, 12, 31, by omega, by decide, Nat.le_refl 31⟩,
          .year ⟨rfl, rfl⟩ (by simp only; omega) hm hd⟩
    · have hlast : 1 ≤ monthLength year (month - 1) := monthLength_pos (by omega)
      exact .inr ⟨⟨year, month - 1, monthLength year (month - 1), hyear, hlast, Nat.le_refl _⟩,
        .month rfl rfl (by simp only; omega) hd⟩
  · exact .inr ⟨⟨year, month, day - 1, hyear, by omega, by omega⟩,
      .day rfl rfl (by simp only; omega)⟩

/-! ## The number of a day -/

/-- The first of January of 1970. -/
def epoch : Date := ⟨1970, 1, 1, by decide, by decide⟩

/-- The number of a day, by counting from the first of January of 1970 to the next day or back. -/
inductive IsDay : Date → Int → Prop where
  | epoch : IsDay epoch 0
  | next {d d' : Date} {n : Int} (counted : IsDay d n) (followed : d.IsFollowedBy d') :
    IsDay d' (n + 1)
  | previous {d d' : Date} {n : Int} (counted : IsDay d' n) (followed : d.IsFollowedBy d') :
    IsDay d (n - 1)

lemma IsDay.epochDay_eq (h : d.IsDay n) : d.epochDay = n := by
  induction h with
  | epoch => rfl
  | next _ hfollowed ih => rw [hfollowed.epochDay, ih]
  | previous _ hfollowed ih =>
    have hstep := hfollowed.epochDay
    omega

lemma IsFollowedBy.exists_isDay_iff (h : d.IsFollowedBy d') :
    (∃ n, d.IsDay n) ↔ ∃ n, d'.IsDay n :=
  ⟨fun ⟨_, hn⟩ => ⟨_, hn.next h⟩, fun ⟨_, hn⟩ => ⟨_, hn.previous h⟩⟩

/-- Counting reaches a day exactly if it reaches the first one. -/
lemma exists_isDay_iff_first (d : Date) : (∃ n, d.IsDay n) ↔ ∃ n, first.IsDay n := by
  -- the day before has a smaller ordinal
  induction hordinal : d.ordinal using Nat.strong_induction_on generalizing d with
  | h k ih =>
    rcases eq_first_or_isFollowedBy d with rfl | ⟨p, hp⟩
    · exact Iff.rfl
    · have hlt : p.ordinal < k := by
        have := hp.ordinal
        omega
      exact hp.exists_isDay_iff.symm.trans (ih p.ordinal hlt p rfl)

lemma exists_isDay (d : Date) : ∃ n, d.IsDay n :=
  (exists_isDay_iff_first d).2 ((exists_isDay_iff_first epoch).1 ⟨0, .epoch⟩)

/-- The closed form gives the number that counting gives. -/
theorem isDay_iff : d.IsDay n ↔ d.epochDay = n := by
  constructor
  · exact IsDay.epochDay_eq
  · rintro rfl
    obtain ⟨n, hn⟩ := d.exists_isDay
    rwa [hn.epochDay_eq]

end Date

/-! ## The time line -/

namespace Instant

variable {t : Instant} {u : Int}

/-- The place of an instant on the time line: the microseconds from the beginning of 1970 in
universal time, which the local time is ahead of by its offset. -/
def IsAt (t : Instant) (u : Int) : Prop :=
  ∃ day, t.date.IsDay day
    ∧ u = ((day * 24 + t.time.hour) * 60 + t.time.minute) * 60000000
      + t.time.second * 1000000 + t.time.micro - t.zone.micros

lemma isAt_iff : t.IsAt u ↔ t.epochMicros = u := by
  simp only [IsAt, Date.isDay_iff, exists_eq_left', epochMicros, TimeOfDay.micros]
  constructor <;> intro h <;> omega

end Instant

end Shortlist
