import Shortlist.Proofs.Calendar.DayCount
import Shortlist.Proofs.Screening.Clock
import Shortlist.Proofs.Screening.Judgeable
import Shortlist.Proofs.Screening.Order

/-!
# Dates on the time line

A date rule compares instants by the millisecond in which they lie, counted in universal time
(`Value.IsInMilli`).  The local time, the offset and the form in which a date is written have no
part in it, and it makes no difference if universal time is then outside the years 1 to 9999.

So the five comparisons are those of the time line (`DateRule.accepts_by_time`).  Since the date in
the rule is read as a fact is, rule and fact may change places if the comparison is turned round
(`Comparison.mirror`).

An offset of a day or more cannot be used, and an interval between durations has no instant; what
follows leaves them aside, and `Rule.CanJudge` says what becomes of them.
-/

namespace Shortlist

variable {now : Instant} {fact fact' : Value} {u u' m m' : Int}

/-! ## Facts on the time line -/

namespace Value

/-- A fact denotes an instant with an offset that can be used, at a place of the time line. -/
def IsAt (now : Instant) (fact : Value) (u : Int) : Prop :=
  ∃ t, fact.instant? now = .ok (some t) ∧ t.hasUsableOffset = true ∧ t.IsAt u

/-- The instant that a fact denotes is in the millisecond of a number. -/
def IsInMilli (now : Instant) (fact : Value) (m : Int) : Prop :=
  ∃ u, fact.IsAt now u ∧ 1000 * m ≤ u ∧ u < 1000 * m + 1000

lemma IsAt.isInMilli (h : fact.IsAt now u) : fact.IsInMilli now (u / 1000) :=
  ⟨u, h, by omega, by omega⟩

/-- A fact in a millisecond denotes an instant that is computed to be in it. -/
lemma isInMilli_iff : fact.IsInMilli now m
    ↔ ∃ t, fact.instant? now = .ok (some t) ∧ t.hasUsableOffset = true ∧ t.epochMillis = m := by
  constructor
  · rintro ⟨u, ⟨t, ht, husable, hat⟩, hle, hlt⟩
    refine ⟨t, ht, husable, ?_⟩
    rw [Instant.epochMillis, Instant.isAt_iff.1 hat]
    omega
  · rintro ⟨t, ht, husable, rfl⟩
    exact IsAt.isInMilli ⟨t, ht, husable, Instant.isAt_iff.2 rfl⟩

end Value

/-! ## Turning a comparison round -/

/-- The comparison of the second with the first. -/
def Comparison.mirror : Comparison → Comparison
  | .atLeast => .atMost
  | .atMost => .atLeast
  | .above => .below
  | .below => .above
  | .equal => .equal

lemma Comparison.holds_mirror (c : Comparison) (a b : Int) : c.mirror.holds b a = c.holds a b := by
  cases c with
  | equal => exact decide_eq_decide.2 eq_comm
  | _ => rfl

/-! ## Rules on the time line -/

namespace DateRule

/-- The rule with the same date and another comparison. -/
def withComparison (rule : DateRule) (c : Comparison) : DateRule := { rule with comparison := c }

variable {rule other : DateRule}

/-- The date of a rule is read as a fact is. -/
lemma instant?_text (rule : DateRule) (now : Instant) :
    (Value.text rule.text).instant? now = .ok (some (rule.moment.instant now)) := by
  simp only [Value.instant?, Text.string?_ofString, Instant.read?, rule.text_reads]
  rfl

/-- The verdict on a fact in a millisecond. -/
lemma accepts_of_isInMilli (hfact : fact.IsInMilli now m)
    (hbound : (rule.moment.instant now).hasUsableOffset = true) :
    (Rule.date rule).accepts now fact
      = .ok (rule.comparison.holds m (rule.moment.instant now).epochMillis) := by
  obtain ⟨t, ht, husable, rfl⟩ := Value.isInMilli_iff.1 hfact
  exact accepts_of_checked ht rfl (Instant.checked_of_hasUsableOffset husable)
    (Instant.checked_of_hasUsableOffset hbound)

lemma accepts_of_not_instant (h : fact.instant? now = .ok none) :
    (Rule.date rule).accepts now fact = .ok false :=
  Rule.FindsNothing.accepts_eq (r := .date rule) h

/-- Two rules of which one is turned round judge the date of each other alike. -/
lemma accepts_text (hmirror : other.comparison = rule.comparison.mirror)
    (hrule : (rule.moment.instant now).hasUsableOffset = true)
    (hother : (other.moment.instant now).hasUsableOffset = true) :
    (Rule.date rule).accepts now (.text other.text)
      = (Rule.date other).accepts now (.text rule.text) := by
  have hmilli (r : DateRule) (h : (r.moment.instant now).hasUsableOffset = true) :
      (Value.text r.text).IsInMilli now (r.moment.instant now).epochMillis :=
    Value.isInMilli_iff.2 ⟨_, r.instant?_text now, h, rfl⟩
  rw [accepts_of_isInMilli (hmilli other hother) hrule,
    accepts_of_isInMilli (hmilli rule hrule) hother,
    hmirror, Comparison.holds_mirror]

/-- Date rules follow the time line.  If the offset of the bound can be used, the bound is in a
millisecond, and a fact in a millisecond is judged by comparing the two.  The five comparisons with
the bound are those of the time line.  Every fact that denotes an instant whose offset can be used
has its millisecond; one that denotes no instant meets none of them.  A later instant meets every
lower bound that an earlier one meets, and an earlier one every upper bound.  Two dates can change
places if the comparison is turned round. -/
theorem accepts_by_time (now : Instant) (rule : DateRule)
    (h : (rule.moment.instant now).hasUsableOffset = true) :
    ∃ bound, (Value.text rule.text).IsInMilli now bound
      ∧ (∀ (panel : Panel) (facts : Facts) (m : Int), facts.graduationDate.IsInMilli now m →
        ∃ e, panel.evaluate now facts [.date rule] = .ok e
          ∧ (e.satisfied = true ↔ rule.comparison.Relates m bound))
      ∧ Comparison.FollowsOrder (fun c fact => (Rule.date (rule.withComparison c)).accepts now fact)
        (Value.IsInMilli now) bound
      ∧ (∀ (fact : Value) (t : Instant), fact.instant? now = .ok (some t) →
        t.hasUsableOffset = true → ∃ u, fact.IsAt now u ∧ fact.IsInMilli now (u / 1000))
      ∧ (∀ fact : Value, fact.instant? now = .ok none → ∀ c,
        (Rule.date (rule.withComparison c)).accepts now fact = .ok false)
      ∧ (∀ (fact fact' : Value) (u u' : Int), fact.IsAt now u → fact'.IsAt now u' → u ≤ u' →
        Comparison.Precedes (fun c fact => (Rule.date (rule.withComparison c)).accepts now fact)
          fact fact')
      ∧ ∀ other : DateRule, other.comparison = rule.comparison.mirror →
        (other.moment.instant now).hasUsableOffset = true →
        (Rule.date rule).accepts now (.text other.text)
          = (Rule.date other).accepts now (.text rule.text) := by
  -- a fact in a millisecond is compared with the bound; the rest is the order of the integers
  have haccepts {fact : Value} {m : Int} (hm : fact.IsInMilli now m) (c : Comparison) :
      (Rule.date (rule.withComparison c)).accepts now fact
        = .ok (c.holds m (rule.moment.instant now).epochMillis) := accepts_of_isInMilli hm h
  have hfollows : Comparison.FollowsOrder
      (fun c fact => (Rule.date (rule.withComparison c)).accepts now fact)
      (Value.IsInMilli now) (rule.moment.instant now).epochMillis :=
    Comparison.followsOrder fun fact m hm c => ⟨_, haccepts hm c, c.holds_iff _ _⟩
  refine ⟨(rule.moment.instant now).epochMillis, ?_, ?_, hfollows, ?_, ?_, ?_, ?_⟩
  · exact Value.isInMilli_iff.2 ⟨_, rule.instant?_text now, h, rfl⟩
  · intro panel facts m hm
    have hverdict : (Rule.date rule).verdict now facts
        = .ok (rule.comparison.holds m (rule.moment.instant now).epochMillis) :=
      accepts_of_isInMilli hm h
    refine ⟨_, panel.evaluate_singleton hverdict, ?_⟩
    rw [Evaluation.satisfied_singleton]
    exact rule.comparison.holds_iff _ _
  · intro fact t ht husable
    have hat : fact.IsAt now t.epochMicros := ⟨t, ht, husable, Instant.isAt_iff.2 rfl⟩
    exact ⟨_, hat, hat.isInMilli⟩
  · exact fun fact hfact c => accepts_of_not_instant hfact
  · intro fact fact' u u' hu hu' hle
    exact hfollows.precedes _ _ _ _ hu.isInMilli hu'.isInMilli (Int.ediv_le_ediv (by decide) hle)
  · exact fun other hmirror hother => accepts_text hmirror h hother

/-- A rule with a date that universal time puts before year 1. -/
def dawn : DateRule :=
  ⟨.above, "0001-01-01T00:00:00+23:59", .fixed ⟨.first, .midnight, .ofSeconds 86340⟩, by rfl⟩

theorem accepts_by_time_dawn :
    (dawn.moment.instant (.ofDate .epoch)).hasUsableOffset = true
      ∧ ∃ e, Panel.standard.evaluate (.ofDate .epoch) { graduationDate := .date .first }
        [.date dawn]
        = .ok e ∧ e.satisfied = true := by
  have husable : (dawn.moment.instant (.ofDate .epoch)).hasUsableOffset = true := by decide
  obtain ⟨bound, hbound, hpanel, -⟩ := accepts_by_time (.ofDate .epoch) dawn husable
  have hfact : (Value.date .first).IsInMilli (.ofDate .epoch) (-62135596800000) :=
    Value.isInMilli_iff.2 ⟨_, rfl, by decide, by decide⟩
  obtain ⟨t, ht, -, rfl⟩ := Value.isInMilli_iff.1 hbound
  rw [instant?_text] at ht
  cases ht
  obtain ⟨e, he, hsatisfied⟩ := hpanel .standard { graduationDate := .date .first } _ hfact
  exact ⟨husable, e, he, hsatisfied.2 ((dawn.comparison.holds_iff _ _).1 (by decide))⟩

end DateRule

end Shortlist
