import Mathlib.Data.List.Basic
import Shortlist.Calendar.Reading
import Shortlist.Proofs.Calendar.DayCount
import Shortlist.Proofs.Number.Digits
import Shortlist.Proofs.Text.Characters
import Shortlist.Proofs.Text.Lines
import Shortlist.Screening.Verdict

/-!
# Dates and times read back from their texts

A date or time is a value of its own or the text that is written for it, and in a text blanks at the
two ends do not count (`Date.IsForm`, `Timestamp.IsForm`).  A fact that was stored comes back as a
text, so all these forms have to be read alike (`Instant.read_forms`).

The proof follows `Calendar.readIso?` through the text from left to right.  Each part is written
with a fixed number of digits and read with the same number, so what is read depends on the
beginning of the text alone, and every lemma leaves open how the text goes on.

The offset is the one thing that can be lost.  A text says it in hours and minutes, so an offset
with seconds is written but not read (`Instant.HasMinuteOffset`).
-/

namespace Shortlist

/-! ## Numbers of a fixed width -/

section

variable {n width : Nat}

lemma isDigit_of_mem_zeroPadded {c : Char} (h : c ∈ zeroPadded width n) : isDigit c = true := by
  rcases List.mem_append.1 h with h | h
  · rw [List.eq_of_mem_replicate h]
    exact isDigit_zero
  · exact isDigit_of_mem_toDigits h

lemma natOfDigits_zeroPadded (width n : Nat) : natOfDigits (zeroPadded width n) = n := by
  rw [zeroPadded, natOfDigits_zeros_append, natOfDigits_toDigits]

lemma length_zeroPadded (hwidth : 0 < width) (h : n < 10 ^ width) :
    (zeroPadded width n).length = width := by
  have hle : (Nat.toDigits 10 n).length ≤ width := (digitCount_le_iff hwidth).2 h
  rw [zeroPadded, List.length_append, List.length_replicate]
  omega

end

namespace Calendar

variable {ds cs tail : List Char} {n width : Nat}

lemma asciiDigit_of_isDigit {c : Char} (h : isDigit c = true) :
    asciiDigit c = some (c.toNat - '0'.toNat) := by
  have hrange : '0' ≤ c ∧ c ≤ '9' := by simpa [isDigit] using h
  rw [asciiDigit, if_pos hrange]

lemma isSome_asciiDigit : (fun c => (asciiDigit c).isSome) = isDigit := by
  funext c
  by_cases h : '0' ≤ c ∧ c ≤ '9'
  · simp [asciiDigit, isDigit, h]
  · simp only [asciiDigit, isDigit, if_neg h]
    simpa using h

lemma takeDigits_append (hds : ∀ c ∈ ds, isDigit c = true) (acc : Nat) (tail : List Char) :
    takeDigits asciiDigit ds.length acc (ds ++ tail)
      = some (ds.foldl (fun n c => n * 10 + (c.toNat - '0'.toNat)) acc, tail) := by
  induction ds generalizing acc with
  | nil => rfl
  | cons c ds ih =>
    rw [List.length_cons, List.cons_append, takeDigits, asciiDigit_of_isDigit (hds c (by simp))]
    exact ih (fun d hd => hds d (by simp [hd])) _

/-- As many digits as are asked for are taken from the front. -/
lemma number_append (hlength : ds.length = width) (hds : ∀ c ∈ ds, isDigit c = true)
    (tail : List Char) : number width (ds ++ tail) = some (natOfDigits ds, tail) := by
  rw [← hlength]
  exact takeDigits_append hds 0 tail

lemma number_zeroPadded (hwidth : 0 < width) (h : n < 10 ^ width) (tail : List Char) :
    number width (zeroPadded width n ++ tail) = some (n, tail) := by
  rw [number_append (length_zeroPadded hwidth h) (fun c hc => isDigit_of_mem_zeroPadded hc),
    natOfDigits_zeroPadded]

/-- A text that begins with a digit, so that no mark can be in front. -/
def BeginsWithDigit (cs : List Char) : Prop := ∃ c tail, cs = c :: tail ∧ isDigit c = true

lemma beginsWithDigit_zeroPadded (hwidth : 0 < width) (h : n < 10 ^ width) (tail : List Char) :
    BeginsWithDigit (zeroPadded width n ++ tail) := by
  have hlength := length_zeroPadded hwidth h
  obtain ⟨c, cs, hcs⟩ : ∃ c cs, zeroPadded width n = c :: cs := by
    apply List.exists_cons_of_ne_nil
    rintro hnil
    rw [hnil, List.length_nil] at hlength
    omega
  have hmem : c ∈ zeroPadded width n := by simp [hcs]
  exact ⟨c, cs ++ tail, by rw [hcs, List.cons_append], isDigit_of_mem_zeroPadded hmem⟩

/-! ## Dates -/

lemma ofFields?_date (d : Date) : Date.ofFields? d.year d.month d.day = some d := by
  rw [Date.ofFields?, dif_pos ⟨d.year_mem, d.day_mem⟩]

lemma extendedDate_write (d : Date) (tail : List Char) :
    extendedDate d.year (zeroPadded 2 d.month ++ '-' :: (zeroPadded 2 d.day ++ tail))
      = some (d, tail) := by
  have hmonth : d.month < 10 ^ 2 := Nat.lt_of_le_of_lt d.month_mem.2 (by decide)
  have hday : d.day < 10 ^ 2 := Nat.lt_of_le_of_lt d.day_le (by decide)
  obtain ⟨c, cs, hcs, hc⟩ := beginsWithDigit_zeroPadded (by decide) hmonth
    ('-' :: (zeroPadded 2 d.day ++ tail))
  unfold extendedDate
  split
  · -- a date by week has a mark here
    rename_i heq
    rw [hcs] at heq
    cases heq
    exact absurd hc (by decide)
  · rw [number_zeroPadded (by decide) hmonth]
    simp [endsDate, number_zeroPadded _ hday, ofFields?_date]

/-- The digits of a year are read as those of a century and of a year in it. -/
lemma exists_century {year : Nat} (h : year < 10 ^ 4) :
    ∃ a b c d, zeroPadded 4 year = [a, b, c, d] ∧ (∀ x ∈ [a, b], isDigit x = true)
      ∧ (∀ x ∈ [c, d], isDigit x = true)
      ∧ natOfDigits [a, b] * 100 + natOfDigits [c, d] = year := by
  have hlength := length_zeroPadded (by decide) h
  obtain ⟨a, b, c, d, hdigits⟩ : ∃ a b c d, zeroPadded 4 year = [a, b, c, d] := by
    match hd : zeroPadded 4 year, hlength with
    | [a, b, c, d], _ => exact ⟨a, b, c, d, rfl⟩
  have hmem : ∀ x ∈ [a, b] ++ [c, d], isDigit x = true := by
    intro x hx
    apply isDigit_of_mem_zeroPadded
    rw [hdigits]
    exact hx
  have hvalue : natOfDigits ([a, b] ++ [c, d]) = year := by
    rw [List.cons_append, List.cons_append, List.nil_append, ← hdigits, natOfDigits_zeroPadded]
  rw [natOfDigits_append] at hvalue
  refine ⟨a, b, c, d, hdigits, fun x hx => hmem x (List.mem_append_left _ hx),
    fun x hx => hmem x (List.mem_append_right _ hx), ?_⟩
  simpa [Nat.mul_comm] using hvalue

/-- A date is read from the front of a text; it is in extended form. -/
lemma readIso?_write (d : Date) (tail : List Char) :
    readIso? (d.write ++ tail) = afterDate .extended d tail := by
  have hyear : d.year < 10 ^ 4 := Nat.lt_of_le_of_lt d.year_mem.2 (by decide)
  obtain ⟨a, b, c, e, hdigits, hab, hce, hvalue⟩ := exists_century hyear
  have hwrite : d.write ++ tail = [a, b] ++ ([c, e] ++ '-' :: (zeroPadded 2 d.month
      ++ '-' :: (zeroPadded 2 d.day ++ tail))) := by
    simp [Date.write, hdigits]
  have ha : isDigit a = true := hab a (by simp)
  have hc : isDigit c = true := hce c (by simp)
  rw [hwrite]
  -- the reader branches on signs and on the place of a colon, where a date has digits
  unfold readIso?
  split
  · rename_i heq
    cases heq
    exact absurd ha (by decide)
  · rename_i heq
    cases heq
    exact absurd ha (by decide)
  · rw [number_append (show [a, b].length = 2 from rfl) hab]
    simp only [bind, Option.bind]
    split
    · -- a time that stands alone has a colon after the first two digits
      rename_i heq
      cases heq
      exact absurd hc (by decide)
    · rw [number_append (show [c, e].length = 2 from rfl) hce]
      simp [hvalue, extendedDate_write]

/-! ## Times -/

lemma ofFields?_time (t : TimeOfDay) :
    TimeOfDay.ofFields? t.hour t.minute t.second t.micro = some t := by
  rw [TimeOfDay.ofFields?, dif_pos ⟨t.hour_lt, t.minute_lt, t.second_lt, t.micro_lt⟩]

/-- What may follow a time is no digit and no mark of a fraction. -/
lemma eq_nil_or_cons_of_endsTime (h : endsTime tail = true) :
    tail = [] ∨ ∃ c cs, tail = c :: cs ∧ isDigit c = false ∧ c ≠ '.' ∧ c ≠ ',' := by
  cases tail with
  | nil => exact .inl rfl
  | cons c cs =>
    have hc : (c = 'Z' ∨ c = '+') ∨ c = '-' := by simpa [endsTime] using h
    rcases hc with (rfl | rfl) | rfl <;> exact .inr ⟨_, _, rfl, by decide, by decide, by decide⟩

lemma fraction_of_endsTime (h : endsTime tail = true) : fraction tail = some (0, tail) := by
  rcases eq_nil_or_cons_of_endsTime h with rfl | ⟨c, cs, rfl, -, hpoint, hcomma⟩
  · rfl
  · rw [fraction, if_neg (not_or.2 ⟨hpoint, hcomma⟩)]

lemma fractionMicros_of_length {values : List Nat} (h : values.length = 6) :
    fractionMicros values = values.foldl (fun n d => n * 10 + d) 0 := by
  rw [fractionMicros, List.take_of_length_le (Nat.le_of_eq h), h, Nat.sub_self,
    List.replicate_zero, List.append_nil]

lemma filterMap_asciiDigit (hds : ∀ c ∈ ds, isDigit c = true) :
    ds.filterMap asciiDigit = ds.map fun c => c.toNat - '0'.toNat := by
  rw [List.filterMap_eq_map_iff_forall_eq_some]
  exact fun c hc => asciiDigit_of_isDigit (hds c hc)

/-- Six digits of a fraction are a number of microseconds. -/
lemma fraction_point (hlength : ds.length = 6) (hds : ∀ c ∈ ds, isDigit c = true)
    (h : endsTime tail = true) : fraction ('.' :: (ds ++ tail)) = some (natOfDigits ds, tail) := by
  have hhead : ∀ c ∈ tail.head?, isDigit c = false := by
    rcases eq_nil_or_cons_of_endsTime h with rfl | ⟨c, cs, rfl, hc, -⟩
    · simp
    · simpa using hc
  obtain ⟨htake, hdrop⟩ := takeWhile_isDigit_append hds hhead
  have hvalues := filterMap_asciiDigit hds
  have hsome : ds.filterMap asciiDigit ≠ [] := by
    intro hnil
    rw [hvalues, List.map_eq_nil_iff] at hnil
    simp [hnil] at hlength
  rw [fraction, if_pos (.inl rfl)]
  simp only [isSome_asciiDigit, htake, hdrop]
  rw [if_neg hsome, hvalues, fractionMicros_of_length (by simpa using hlength), List.foldl_map]
  rfl

lemma minutes_write (t : TimeOfDay) (h : endsTime tail = true) :
    minutes .extended t.hour (':' :: (zeroPadded 2 t.minute ++ ':' :: (zeroPadded 2 t.second
      ++ ((if t.micro = 0 then [] else '.' :: zeroPadded 6 t.micro) ++ tail))))
        = some (t, tail) := by
  have hminute : t.minute < 10 ^ 2 := Nat.lt_trans t.minute_lt (by decide)
  have hsecond : t.second < 10 ^ 2 := Nat.lt_trans t.second_lt (by decide)
  have hfraction : fraction ((if t.micro = 0 then [] else '.' :: zeroPadded 6 t.micro) ++ tail)
      = some (t.micro, tail) := by
    by_cases hmicro : t.micro = 0
    · rw [if_pos hmicro, List.nil_append, fraction_of_endsTime h, hmicro]
    · rw [if_neg hmicro, List.cons_append, fraction_point (length_zeroPadded (by decide) t.micro_lt)
        (fun c hc => isDigit_of_mem_zeroPadded hc) h, natOfDigits_zeroPadded]
  simp [minutes, endsTime, number_zeroPadded _ hminute, number_zeroPadded _ hsecond, hfraction,
    ofFields?_time]

/-! ## Offsets -/

lemma endsTime_writeOffset (s : Int) : endsTime (writeOffset s) = true := by
  unfold writeOffset
  by_cases hs : s < 0 <;> simp [hs, endsTime]

lemma offsetMinutes_zeroPadded (h : n < 10 ^ 2) :
    offsetMinutes (':' :: zeroPadded 2 n) = some n := by
  have hnumber : number 2 (zeroPadded 2 n) = some (n, []) := by
    simpa using number_zeroPadded (by decide) h []
  obtain ⟨c, cs, hcs, -⟩ := beginsWithDigit_zeroPadded (by decide) h []
  rw [List.append_nil] at hcs
  simp only [offsetMinutes, hcs] at hnumber ⊢
  rw [hnumber]
  rfl

/-- An offset of whole minutes that is shorter than a day is read back. -/
lemma zone_writeOffset {s : Int} (hminutes : 60000000 ∣ s) (hday : s.natAbs < 86400000000) :
    zone (writeOffset s) = some (.fixed s) := by
  obtain ⟨n, hn⟩ : ∃ n, s.natAbs / 1000000 = n := ⟨_, rfl⟩
  have hhours : n / 3600 < 10 ^ 2 := by omega
  have hrest : n / 60 % 60 < 10 ^ 2 := by omega
  have hseconds : n % 60 = 0 := by omega
  have hmicro : s.natAbs % 1000000 = 0 := by omega
  have hsize : ((n / 3600 : Nat) : Int) * 3600 + ((n / 60 % 60 : Nat) : Int) * 60 = n := by omega
  -- hours and minutes say the size of the offset, the sign is read apart
  have hread (sign : Char) (hsign : sign = '+' ∨ sign = '-') :
      zone (sign :: (zeroPadded 2 (n / 3600) ++ ':' :: zeroPadded 2 (n / 60 % 60)))
        = some (.ofSeconds (if sign = '-' then -n else n)) := by
    have hmark : sign ≠ 'Z' := by rintro rfl; simp at hsign
    rw [zone, if_pos hsign, number_zeroPadded (by decide) hhours]
    · simp only [bind, Option.bind, offsetMinutes_zeroPadded hrest, hsize]
      rw [if_neg (by split <;> omega)]
    · exact fun hz _ => hmark hz
  have hwrite : writeOffset s = (if s < 0 then '-' else '+')
      :: (zeroPadded 2 (n / 3600) ++ ':' :: zeroPadded 2 (n / 60 % 60)) := by
    simp [writeOffset, hn, hseconds, hmicro]
  rw [hwrite]
  by_cases hs : s < 0
  · have hsigned : -(n : Int) * 1000000 = s := by omega
    rw [if_pos hs, hread '-' (.inr rfl), if_pos rfl, Zone.ofSeconds, hsigned]
  · have hsigned : (n : Int) * 1000000 = s := by omega
    rw [if_neg hs, hread '+' (.inl rfl), if_neg (by decide), Zone.ofSeconds, hsigned]

/-- A date with a time is read back if the mark behind it is read as its zone. -/
lemma readIso?_moment (d : Date) (t : TimeOfDay) {z : Zone} (htail : endsTime tail = true)
    (hzone : zone tail = some z) :
    readIso? (d.write ++ 'T' :: (t.write ++ tail)) = some (.moment d t z) := by
  have hhour : t.hour < 10 ^ 2 := Nat.lt_trans t.hour_lt (by decide)
  have hwrite : t.write ++ tail = zeroPadded 2 t.hour ++ (':' :: (zeroPadded 2 t.minute
      ++ ':' :: (zeroPadded 2 t.second
        ++ ((if t.micro = 0 then [] else '.' :: zeroPadded 6 t.micro) ++ tail)))) := by
    simp [TimeOfDay.write]
  rw [readIso?_write, afterDate, if_pos (.inl rfl), hwrite, number_zeroPadded (by decide) hhour]
  simp [minutes_write t htail, hzone]

/-! ## The characters of a written form -/

/-- Whether a character occurs in the text of a date or a time. -/
def isMark (c : Char) : Bool := isDigit c || ['-', '+', ':', '.', 'T', 'Z'].contains c

lemma isBlank_of_isMark {c : Char} (h : isMark c = true) : Text.isBlank c = false := by
  have hmark : isDigit c = true ∨ c ∈ ['-', '+', ':', '.', 'T', 'Z'] := by simpa [isMark] using h
  rcases hmark with hdigit | hmem
  · rw [isDigit_iff] at hdigit
    simp [Text.isBlank, Text.blankRanges, Text.CharRanges.holds, Text.CharRanges.holdsCode]
    omega
  · have hall : ['-', '+', ':', '.', 'T', 'Z'].all (fun d => !Text.isBlank d) = true := rfl
    simpa using List.all_eq_true.1 hall c hmem

lemma all_isMark_zeroPadded (width n : Nat) : (zeroPadded width n).all isMark = true := by
  rw [List.all_eq_true]
  intro c hc
  rw [isMark, isDigit_of_mem_zeroPadded hc, Bool.true_or]

lemma all_isMark_date (d : Date) : d.write.all isMark = true := by
  have hhyphen : isMark '-' = true := rfl
  simp [Date.write, all_isMark_zeroPadded, hhyphen]

lemma all_isMark_time (t : TimeOfDay) : t.write.all isMark = true := by
  have hcolon : isMark ':' = true := rfl
  have hpoint : isMark '.' = true := rfl
  by_cases h : t.micro = 0 <;> simp [TimeOfDay.write, all_isMark_zeroPadded, hcolon, hpoint, h]

lemma all_isMark_writeOffset (s : Int) : (writeOffset s).all isMark = true := by
  have hcolon : isMark ':' = true := rfl
  have hpoint : isMark '.' = true := rfl
  have hsign : isMark (if s < 0 then '-' else '+') = true := by split <;> rfl
  by_cases hseconds : s.natAbs / 1000000 % 60 = 0 <;> by_cases hmicro : s.natAbs % 1000000 = 0 <;>
    simp [writeOffset, all_isMark_zeroPadded, hcolon, hpoint, hsign, hseconds, hmicro]

lemma all_isMark_moment (d : Date) (t : TimeOfDay) (h : tail.all isMark = true) :
    (d.write ++ 'T' :: (t.write ++ tail)).all isMark = true := by
  have hmark : isMark 'T' = true := rfl
  rw [List.all_append, all_isMark_date, List.all_cons, hmark, List.all_append, all_isMark_time, h]
  rfl

/-! ## What a text says -/

/-- The instant that a date fixes, with a time or without one. -/
def Reading.instant? : Reading → Option Instant
  | .date d => some (.ofDate d)
  | .moment d t z => some ⟨d, t, z⟩
  | .time _ => none
  | .duration => none

/-- The text consists of marks, and what they say fixes the instant. -/
def Says (cs : List Char) (x : Instant) : Prop :=
  cs.all isMark = true ∧ ∃ r, readIso? cs = some r ∧ r.instant? = some x

lemma says_date (d : Date) : Says d.write (.ofDate d) := by
  have hread := readIso?_write d []
  rw [List.append_nil] at hread
  exact ⟨all_isMark_date d, .date d, hread, rfl⟩

lemma says_moment (d : Date) (t : TimeOfDay) {z : Zone} (hmarks : tail.all isMark = true)
    (htail : endsTime tail = true) (hzone : zone tail = some z) :
    Says (d.write ++ 'T' :: (t.write ++ tail)) ⟨d, t, z⟩ :=
  ⟨all_isMark_moment d t hmarks, .moment d t z, readIso?_moment d t htail hzone, rfl⟩

/-- A date with a time and an offset in hours and minutes. -/
lemma says_offset (d : Date) (t : TimeOfDay) {s : Int} (hminutes : 60000000 ∣ s)
    (hday : s.natAbs < 86400000000) :
    Says (d.write ++ 'T' :: (t.write ++ writeOffset s)) ⟨d, t, .fixed s⟩ :=
  says_moment d t (all_isMark_writeOffset s) (endsTime_writeOffset s)
    (zone_writeOffset hminutes hday)

variable {before after : List Char} {x : Instant}

/-- A text with blanks around what says an instant stands for that instant. -/
lemma Says.read? (h : Says cs x) (hbefore : ∀ c ∈ before, Text.isBlank c = true)
    (hafter : ∀ c ∈ after, Text.isBlank c = true) :
    Moment.read? (.ofList (before ++ cs ++ after)) = .ok (some (.fixed x)) := by
  obtain ⟨hmarks, r, hread, hinstant⟩ := h
  have hmark : ∀ c ∈ cs, isMark c = true := List.all_eq_true.1 hmarks
  have htrim : Text.trim (before ++ cs ++ after) = cs := by
    rw [Text.trim_append_blanks hafter, Text.trim_append_of_blank hbefore,
      Text.trim_of_not_blank fun c hc => isBlank_of_isMark (hmark c hc)]
  -- nothing that says an instant is the word or has the mark of an interval in it
  have hnow : cs ≠ ['n', 'o', 'w'] := by
    rintro rfl
    exact absurd (hmark 'n' (by simp)) (by decide)
  have hslash : cs.contains '/' = false := by
    rw [← Bool.not_eq_true, List.contains_iff_mem]
    exact fun hmem => absurd (hmark '/' hmem) (by decide)
  rw [Moment.read?, String.toList_ofList, htrim, if_neg hnow, hslash, Bool.false_and,
    if_neg Bool.false_ne_true, Calendar.read?, hread]
  cases r with
  | date d =>
    cases hinstant
    rfl
  | moment d t z =>
    cases hinstant
    rfl
  | time t => cases hinstant
  | duration => cases hinstant

lemma Says.instant? (h : Says cs x) (now : Instant) (hbefore : ∀ c ∈ before, Text.isBlank c = true)
    (hafter : ∀ c ∈ after, Text.isBlank c = true) :
    (Value.text (.ofChars (before ++ cs ++ after))).instant? now = .ok (some x) := by
  rw [Value.instant?, Text.string?, Text.chars?_ofChars, Option.map_some]
  simp only [Instant.read?, h.read? hbefore hafter]
  rfl

/-- Blanks need not be there. -/
lemma Says.instant?_self (h : Says cs x) (now : Instant) :
    (Value.text (.ofChars cs)).instant? now = .ok (some x) := by
  simpa using h.instant? now (List.forall_mem_nil _) (List.forall_mem_nil _)

end Calendar

/-! ## The forms of a date -/

/-- The values that are the date: the date itself, and its text with blanks around it or none. -/
inductive Date.IsForm (d : Date) : Value → Prop
  | object : d.IsForm (.date d)
  | text (before after : List Char) (hbefore : ∀ c ∈ before, Text.isBlank c = true)
      (hafter : ∀ c ∈ after, Text.isBlank c = true) :
      d.IsForm (.text (.ofChars (before ++ d.write ++ after)))

/-- The values that are the timestamp: the timestamp itself, and its text with blanks around it or
none. -/
inductive Timestamp.IsForm (t : Timestamp) : Value → Prop
  | object : t.IsForm (.timestamp t)
  | text (before after : List Char) (hbefore : ∀ c ∈ before, Text.isBlank c = true)
      (hafter : ∀ c ∈ after, Text.isBlank c = true) :
      t.IsForm (.text (.ofChars (before ++ t.write 'T' ++ after)))

/-- The offset, if there is one, is of whole minutes and shorter than a day. -/
def Timestamp.HasMinuteOffset (t : Timestamp) : Prop :=
  ∀ s, t.offset = some s → 60000000 ∣ s ∧ s.natAbs < 86400000000

/-- The instant has the fields of the timestamp and the same offset; none is universal time. -/
def Timestamp.IsReadAs (t : Timestamp) (x : Instant) : Prop :=
  x.date = t.date ∧ x.time = t.time ∧ x.zone.micros = t.offset.getD 0

lemma Timestamp.isReadAs_ofTimestamp (t : Timestamp) (h : t.HasMinuteOffset) :
    t.IsReadAs (.ofTimestamp t) := by
  refine ⟨rfl, rfl, ?_⟩
  cases hoffset : t.offset with
  | none => simp [Instant.ofTimestamp, hoffset, Zone.micros]
  | some s =>
    -- whole minutes are whole seconds, so nothing is cut off
    have hseconds : (1000000 : Int) ∣ s := Int.dvd_trans (by decide) (h s hoffset).1
    by_cases hs : s = 0
    · simp [Instant.ofTimestamp, hoffset, hs, Zone.micros]
    · simp [Instant.ofTimestamp, hoffset, hs, Zone.ofSeconds, Zone.micros,
        Int.tdiv_mul_cancel hseconds]

/-- The text of a timestamp says its fields and its offset. -/
lemma Timestamp.exists_says (t : Timestamp) (h : t.HasMinuteOffset) :
    ∃ x, Calendar.Says (t.write 'T') x ∧ t.IsReadAs x := by
  cases hoffset : t.offset with
  | none =>
    have hwrite : t.write 'T' = t.date.write ++ 'T' :: (t.time.write ++ []) := by
      simp [Timestamp.write, hoffset]
    refine ⟨_, hwrite ▸ Calendar.says_moment t.date t.time rfl rfl rfl, rfl, rfl, ?_⟩
    rw [hoffset]
    rfl
  | some s =>
    have hwrite : t.write 'T' = t.date.write ++ 'T' :: (t.time.write ++ writeOffset s) := by
      simp [Timestamp.write, hoffset]
    refine ⟨_, hwrite ▸ Calendar.says_offset t.date t.time (h s hoffset).1 (h s hoffset).2, rfl,
      rfl, ?_⟩
    rw [hoffset]
    rfl

/-- The text of an instant whose offset is of whole minutes says that instant. -/
lemma Instant.says_write (x : Instant) (hminutes : 60000000 ∣ x.zone.micros)
    (husable : x.hasUsableOffset = true) : Calendar.Says x.write x := by
  obtain ⟨d, t, z⟩ := x
  cases z with
  | utc =>
    have hwrite : Instant.write ⟨d, t, .utc⟩ = d.write ++ 'T' :: (t.write ++ ['Z']) := by
      simp [Instant.write]
    exact hwrite ▸ Calendar.says_moment d t rfl rfl rfl
  | fixed s =>
    have hwrite :
        Instant.write ⟨d, t, .fixed s⟩ = d.write ++ 'T' :: (t.write ++ writeOffset s) := by
      simp [Instant.write]
    exact hwrite ▸ Calendar.says_offset d t hminutes (of_decide_eq_true husable)

/-- All forms of a date are read alike, whatever the clock shows.  A date and its text are the
beginning of the day in universal time.  A timestamp and its text have the same local fields and the
same offset; without an offset they are in universal time.  The text that is written for an instant
so read is read as that instant. -/
theorem Instant.read_forms (now : Instant) :
    (∀ (d : Date) (v : Value), d.IsForm v → v.instant? now = .ok (some (.ofDate d)))
      ∧ (∀ (t : Timestamp) (v : Value), t.HasMinuteOffset → t.IsForm v →
        ∃ x, v.instant? now = .ok (some x) ∧ t.IsReadAs x)
      ∧ (∀ (v : Value) (x : Instant),
        ((∃ d : Date, d.IsForm v) ∨ ∃ t : Timestamp, t.HasMinuteOffset ∧ t.IsForm v) →
        v.instant? now = .ok (some x) →
        (Value.text (.ofChars x.write)).instant? now = .ok (some x)) := by
  have hdate : ∀ (d : Date) (v : Value), d.IsForm v → v.instant? now = .ok (some (.ofDate d)) := by
    intro d v hv
    cases hv with
    | object => rfl
    | text before after hbefore hafter => exact (Calendar.says_date d).instant? now hbefore hafter
  have htimestamp : ∀ (t : Timestamp) (v : Value), t.HasMinuteOffset → t.IsForm v →
      ∃ x, v.instant? now = .ok (some x) ∧ t.IsReadAs x := by
    intro t v hminutes hv
    cases hv with
    | object => exact ⟨_, rfl, t.isReadAs_ofTimestamp hminutes⟩
    | text before after hbefore hafter =>
      obtain ⟨x, hx, hread⟩ := t.exists_says hminutes
      exact ⟨x, hx.instant? now hbefore hafter, hread⟩
  refine ⟨hdate, htimestamp, ?_⟩
  -- what was read has whole minutes in its offset, so its text can be read in turn
  rintro v x (⟨d, hd⟩ | ⟨t, hminutes, ht⟩) hx
  · rw [hdate d v hd] at hx
    cases hx
    exact (says_write (.ofDate d) (Int.dvd_zero 60000000) rfl).instant?_self now
  · obtain ⟨y, hy, -, -, hzone⟩ := htimestamp t v hminutes ht
    obtain rfl : y = x := by simpa [hy] using hx
    have hoffset : 60000000 ∣ y.zone.micros ∧ y.zone.micros.natAbs < 86400000000 := by
      rw [hzone]
      cases h : t.offset with
      | none => decide
      | some s => exact hminutes s h
    exact (y.says_write hoffset.1 (decide_eq_true hoffset.2)).instant?_self now

end Shortlist
