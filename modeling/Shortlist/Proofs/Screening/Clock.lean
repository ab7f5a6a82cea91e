import Shortlist.Proofs.Screening.Evaluation

/-!
# Verdicts and the clock

The clock is looked at for one thing only: a text that names no day, such as `12:30`, stands for a
time of the day on which it is read, and the text `now` for the time at which it is read.  Such a
text may be a fact or stand in a rule; in a rule it is read anew at every evaluation.

A rule and a fact that stand for moments of one kind keep their distance (`Moment.MovesWith`), so
the clock makes no difference to them.  Otherwise it may: a rule is judged alike at all times by all
facts that are fixed exactly if its own moment is fixed, and a fact is judged alike at all times by
all rules that are fixed exactly if it is fixed itself (`Panel.evaluate_steady`).
-/

namespace Shortlist

/-! ## Moments -/

/-- A time that a clock shows is in universal time. -/
def Instant.IsReading (t : Instant) : Prop := t.zone = .utc

namespace Moment

/-- A moment that is the same whenever it is read. -/
def IsFixed (m : Moment) : Prop := ∃ t, m = .fixed t

/-- Two moments of one kind: both are fixed, or both are times of the current day, or both are the
present. -/
inductive MovesWith : Moment → Moment → Prop where
  | fixed (t u : Instant) : MovesWith (.fixed t) (.fixed u)
  | today (time time' : TimeOfDay) : MovesWith (.today time) (.today time')
  | present : MovesWith .present .present

lemma IsFixed.movesWith {m m' : Moment} (h : m.IsFixed) (h' : m'.IsFixed) : m.MovesWith m' := by
  obtain ⟨t, rfl⟩ := h
  obtain ⟨u, rfl⟩ := h'
  exact .fixed t u

/-- A moment that is not fixed is, on every day, what the clock shows at some time of the day. -/
lemma exists_instant_eq {m : Moment} (h : ¬m.IsFixed) :
    ∃ time, ∀ date, m.instant ⟨date, time, .utc⟩ = ⟨date, time, .utc⟩ := by
  cases m with
  | fixed t => exact absurd ⟨t, rfl⟩ h
  | today time => exact ⟨time, fun _ => rfl⟩
  | present => exact ⟨.midnight, fun _ => rfl⟩

end Moment

/-- The moment that a fact names, if it names one. -/
def Value.moment? : Value → Except DurationPair (Option Moment)
  | .date d => .ok (some (.fixed (.ofDate d)))
  | .timestamp t => .ok (some (.fixed (.ofTimestamp t)))
  | .text t =>
    match t.string? with
    | some s => Moment.read? s
    | none => .ok none
  | _ => .ok none

/-- The instant that a fact denotes is what its moment is at the time. -/
lemma Value.instant?_eq (now : Instant) (v : Value) :
    v.instant? now = v.moment?.map (·.map (·.instant now)) := by
  cases v with
  | text t =>
    rw [Value.instant?, Value.moment?]
    cases t.string? <;> rfl
  | _ => rfl

/-- If a fact names a moment, the moment is fixed. -/
def Value.IsSteady (v : Value) : Prop := ∀ m, v.moment? = .ok (some m) → m.IsFixed

/-- If a rule is about a date, its moment is fixed. -/
def Rule.IsSteady (r : Rule) : Prop := ∀ d, r = .date d → d.moment.IsFixed

/-! ## Comparing -/

/-- A comparison does not depend on where the counting starts. -/
lemma Comparison.holds_add (c : Comparison) (n a b : Int) :
    c.holds (n + a) (n + b) = c.holds a b := by
  cases c <;> simp [holds]

lemma Comparison.holds_self (c : Comparison) (a b : Int) : c.holds a a = c.holds b b := by
  cases c <;> simp [holds]

/-- No comparison holds, or fails to hold, of a number with a smaller one, itself and a greater
one. -/
lemma Comparison.exists_holds_ne (c : Comparison) {a b d : Int} (hab : a < b) (hbd : b < d) :
    c.holds b a ≠ c.holds b b ∨ c.holds b d ≠ c.holds b b := by
  cases c <;> simp [holds] <;> omega

namespace Instant

/-- What the clock shows can be compared. -/
lemma IsReading.checked {t : Instant} (h : t.IsReading) : t.checked = .ok t := by
  rw [Instant.checked, hasUsableOffset, h]
  rfl

/-- The milliseconds in universal time are those of the day and those since its beginning. -/
lemma epochMillis_utc (date : Date) (time : TimeOfDay) :
    epochMillis ⟨date, time, .utc⟩ = date.epochDay * 86400000 + time.micros / 1000 := by
  simp only [epochMillis, epochMicros, Zone.micros]
  omega

end Instant

namespace DateRule

variable {rule : DateRule} {fact : Value} {now now' : Instant}

/-- The verdict on a fact that denotes an instant, where the rule can be compared with it. -/
lemma accepts_of_checked {candidate bound : Instant}
    (hfact : fact.instant? now = .ok (some candidate))
    (hbound : rule.moment.instant now = bound) (hcandidate : candidate.checked = .ok candidate)
    (hchecked : bound.checked = .ok bound) :
    rule.accepts now fact
      = .ok (rule.comparison.holds candidate.epochMillis bound.epochMillis) := by
  simp only [accepts, hfact, hbound, hcandidate, hchecked]

/-- A rule and a fact that keep their distance come to the same verdict at all times. -/
lemma accepts_eq (hnow : now.IsReading) (hnow' : now'.IsReading)
    (h : ∀ m, fact.moment? = .ok (some m) → rule.moment.MovesWith m) :
    rule.accepts now fact = rule.accepts now' fact := by
  rcases hmoment : fact.moment? with fault | _ | m
  · simp only [accepts, Value.instant?_eq, hmoment, Except.map]
  · simp only [accepts, Value.instant?_eq, hmoment, Except.map, Option.map]
  · have hinstant (t : Instant) : fact.instant? t = .ok (some (m.instant t)) := by
      rw [Value.instant?_eq, hmoment]
      rfl
    have hmoves := h m hmoment
    generalize hr : rule.moment = bound at hmoves
    -- both are fixed, both are today, or both are now: the distance is the same at all times
    cases hmoves with
    | fixed t u => simp only [accepts, hinstant, hr, Moment.instant]
    | today time time' =>
      have hverdict (t : Instant) : rule.accepts t fact
          = .ok (rule.comparison.holds (time'.micros / 1000) (time.micros / 1000)) := by
        rw [accepts_of_checked (hinstant t) (congrArg (Moment.instant t) hr)
          (Instant.IsReading.checked rfl) (Instant.IsReading.checked rfl)]
        simp only [Moment.instant, Instant.epochMillis_utc, Comparison.holds_add]
      rw [hverdict, hverdict]
    | present =>
      rw [accepts_of_checked (hinstant now) (congrArg (Moment.instant now) hr) hnow.checked
          hnow.checked,
        accepts_of_checked (hinstant now') (congrArg (Moment.instant now') hr) hnow'.checked
          hnow'.checked]
      exact congrArg Except.ok (Comparison.holds_self _ _ _)

end DateRule

/-! ## Evaluations -/

/-- The moments of the rules about dates move with the moment of the fact that they read, if it
names one. -/
def Facts.MoveWith (facts : Facts) (rules : List Rule) : Prop :=
  ∀ d, Rule.date d ∈ rules → ∀ m, facts.graduationDate.moment? = .ok (some m) →
    d.moment.MovesWith m

namespace Panel

variable {panel : Panel} {now now' : Instant} {facts : Facts} {rules : List Rule}

/-- Evaluations come out alike if every rule is judged alike. -/
lemma evaluate_congr (h : ∀ r ∈ rules, r.verdict now facts = r.verdict now' facts) :
    panel.evaluate now facts rules = panel.evaluate now' facts rules := by
  have hjudge : ∀ requirement ∈ rules.map Requirement.rule,
      panel.judge now facts requirement = panel.judge now' facts requirement := by
    rw [List.forall_mem_map]
    intro r hr
    have hverdict := h r hr
    rw [Rule.verdict, Rule.verdict] at hverdict
    rw [judge_rule, judge_rule, hverdict]
  rw [evaluate, evaluate, evaluateAll, evaluateAll, List.mapM_congr_of_mem hjudge]

/-- Evaluations of one rule come out alike only if the rule is judged alike. -/
lemma verdict_eq_of_evaluate {r : Rule} {satisfied satisfied' : Bool}
    (h : panel.evaluate now facts [r] = panel.evaluate now' facts [r])
    (hverdict : r.verdict now facts = .ok satisfied)
    (hverdict' : r.verdict now' facts = .ok satisfied') : satisfied = satisfied' := by
  rw [panel.evaluate_singleton hverdict, panel.evaluate_singleton hverdict'] at h
  cases h
  rfl

/-- The clock makes no difference to rules that move with the fact that they read. -/
lemma evaluate_of_moveWith (h : facts.MoveWith rules) (hnow : now.IsReading)
    (hnow' : now'.IsReading) :
    panel.evaluate now facts rules = panel.evaluate now' facts rules := by
  refine evaluate_congr fun r hr => ?_
  cases r with
  | numeric n => rfl
  | equality e => rfl
  | date d => exact DateRule.accepts_eq hnow hnow' (h d hr)

end Panel

/-- Steady rules move with a steady fact. -/
lemma Facts.moveWith_of_isSteady {facts : Facts} {rules : List Rule}
    (hrules : ∀ r ∈ rules, r.IsSteady) (hfact : facts.graduationDate.IsSteady) :
    facts.MoveWith rules :=
  fun d hd m hm => (hrules _ hd d rfl).movesWith (hfact m hm)

/-! ## Three days -/

/-- One of the first days of the year 2000. -/
def Date.early (day : Nat) (h : 1 ≤ day ∧ day ≤ 3) : Date :=
  ⟨2000, 1, day, by decide, h.1, Nat.le_trans h.2 (by decide)⟩

/-- The clock at some time of one of these days. -/
def Instant.early (day : Nat) (h : 1 ≤ day ∧ day ≤ 3) (time : TimeOfDay) : Instant :=
  ⟨.early day h, time, .utc⟩

lemma Instant.epochMillis_early (day : Nat) (h : 1 ≤ day ∧ day ≤ 3) (time : TimeOfDay) :
    (Instant.early day h time).epochMillis
      = (10956 + day : Int) * 86400000 + time.micros / 1000 := by
  have hbefore : Date.daysBeforeYear 2000 + Date.daysBeforeMonth 2000 1 = 730119 := by decide
  have hday : (Date.early day h).epochDay = 10956 + day := by
    simp only [Date.epochDay, Date.ordinal, Date.early, hbefore]
    omega
  rw [Instant.early, Instant.epochMillis_utc, hday]

lemma TimeOfDay.micros_lt (time : TimeOfDay) : time.micros < 86400000000 := by
  obtain ⟨hour, minute, second, micro, hhour, hminute, hsecond, hmicro⟩ := time
  simp only [micros]
  omega

/-- The rule that the graduation was before the second of these days. -/
def DateRule.early : DateRule :=
  ⟨.below, "2000-01-02", .fixed (.ofDate (.early 2 (by decide))), by rfl⟩

namespace Panel

variable (panel : Panel)

/-- A rule whose moment is not fixed judges a timestamp on the second day differently on one of the
days. -/
lemma exists_evaluate_ne_of_rule {d : DateRule} (h : ¬d.moment.IsFixed) :
    ∃ facts : Facts, facts.graduationDate.IsSteady ∧ ∃ now now' : Instant,
      now.IsReading ∧ now'.IsReading
        ∧ panel.evaluate now facts [.date d] ≠ panel.evaluate now' facts [.date d] := by
  obtain ⟨time, htime⟩ := Moment.exists_instant_eq h
  let graduation : Value := .timestamp ⟨.early 2 (by decide), time, none⟩
  let facts : Facts := { graduationDate := graduation }
  have hsteady : graduation.IsSteady := by
    rintro m hm
    cases hm
    exact ⟨_, rfl⟩
  have hverdict (day : Nat) (hday : 1 ≤ day ∧ day ≤ 3) :
      (Rule.date d).verdict (.early day hday time) facts
        = .ok (d.comparison.holds (Instant.early 2 (by decide) time).epochMillis
          (Instant.early day hday time).epochMillis) := by
    have hfact : graduation.instant? (.early day hday time)
        = .ok (some (.early 2 (by decide) time)) := rfl
    exact DateRule.accepts_of_checked hfact (htime _) (Instant.IsReading.checked rfl)
      (Instant.IsReading.checked rfl)
  have hbefore : (Instant.early 1 (by decide) time).epochMillis
      < (Instant.early 2 (by decide) time).epochMillis := by
    simp only [Instant.epochMillis_early]
    omega
  have hafter : (Instant.early 2 (by decide) time).epochMillis
      < (Instant.early 3 (by decide) time).epochMillis := by
    simp only [Instant.epochMillis_early]
    omega
  -- on the day of the fact the two are equal, and each comparison tells this from a day before or
  -- after
  refine ⟨facts, hsteady, ?_⟩
  rcases d.comparison.exists_holds_ne hbefore hafter with hne | hne
  · exact ⟨.early 1 (by decide) time, .early 2 (by decide) time, rfl, rfl,
      fun heq => hne (verdict_eq_of_evaluate heq (hverdict 1 _) (hverdict 2 _))⟩
  · exact ⟨.early 3 (by decide) time, .early 2 (by decide) time, rfl, rfl,
      fun heq => hne (verdict_eq_of_evaluate heq (hverdict 3 _) (hverdict 2 _))⟩

/-- A fact whose moment is not fixed is before the second day on the first one, and not on the
third. -/
lemma exists_evaluate_ne_of_fact {facts : Facts} {m : Moment}
    (hfact : facts.graduationDate.moment? = .ok (some m)) (h : ¬m.IsFixed) :
    ∃ now now' : Instant, now.IsReading ∧ now'.IsReading
      ∧ panel.evaluate now facts [.date .early] ≠ panel.evaluate now' facts [.date .early] := by
  obtain ⟨time, htime⟩ := Moment.exists_instant_eq h
  have hverdict (day : Nat) (hday : 1 ≤ day ∧ day ≤ 3) :
      (Rule.date .early).verdict (.early day hday time) facts
        = .ok (Comparison.below.holds (Instant.early day hday time).epochMillis
          (Instant.early 2 (by decide) .midnight).epochMillis) := by
    have hinstant : facts.graduationDate.instant? (.early day hday time)
        = .ok (some (.early day hday time)) := by
      rw [Value.instant?_eq, hfact]
      exact congrArg (fun t => Except.ok (some t)) (htime _)
    exact DateRule.accepts_of_checked hinstant rfl (Instant.IsReading.checked rfl)
      (Instant.IsReading.checked rfl)
  refine ⟨.early 1 (by decide) time, .early 3 (by decide) time, rfl, rfl, fun heq => ?_⟩
  have hsame := verdict_eq_of_evaluate heq (hverdict 1 _) (hverdict 3 _)
  have htime := time.micros_lt
  have hmidnight : TimeOfDay.midnight.micros = 0 := rfl
  simp only [Comparison.holds, Instant.epochMillis_early, hmidnight, decide_eq_decide] at hsame
  omega

/-- The clock makes no difference to an evaluation in which each rule moves with the fact that it
reads, and in particular if the rules and the fact are fixed.  Where one of the two is fixed,
nothing less will do: a rule is judged alike at all times by all fixed facts exactly if it is fixed
itself, and a fact is judged alike at all times by all fixed rules exactly if it is fixed itself. -/
theorem evaluate_steady :
    (∀ facts : Facts, ∀ rules, facts.MoveWith rules →
        ∀ now now' : Instant, now.IsReading → now'.IsReading →
          panel.evaluate now facts rules = panel.evaluate now' facts rules)
      ∧ (∀ facts : Facts, ∀ rules, (∀ r ∈ rules, r.IsSteady) → facts.graduationDate.IsSteady →
        facts.MoveWith rules)
      ∧ (∀ r : Rule, (∀ facts : Facts, facts.graduationDate.IsSteady →
          ∀ now now' : Instant, now.IsReading → now'.IsReading →
            panel.evaluate now facts [r] = panel.evaluate now' facts [r]) ↔ r.IsSteady)
      ∧ ∀ facts : Facts, (∀ r : Rule, r.IsSteady →
          ∀ now now' : Instant, now.IsReading → now'.IsReading →
            panel.evaluate now facts [r] = panel.evaluate now' facts [r])
        ↔ facts.graduationDate.IsSteady := by
  have halike : ∀ facts : Facts, ∀ rules, facts.MoveWith rules →
      ∀ now now' : Instant, now.IsReading → now'.IsReading →
        panel.evaluate now facts rules = panel.evaluate now' facts rules :=
    fun facts rules h now now' hnow hnow' => evaluate_of_moveWith h hnow hnow'
  have hsteady : ∀ facts : Facts, ∀ rules, (∀ r ∈ rules, r.IsSteady) →
      facts.graduationDate.IsSteady → facts.MoveWith rules :=
    fun facts rules hrules hfact => Facts.moveWith_of_isSteady hrules hfact
  have hsingle (facts : Facts) (r : Rule) (hr : r.IsSteady)
    (hfact : facts.graduationDate.IsSteady) :=
    halike facts [r] (hsteady facts [r] (by simpa using hr) hfact)
  refine ⟨halike, hsteady, fun r => ⟨fun h => ?_, fun hr facts => hsingle facts r hr⟩,
    fun facts => ⟨fun h => ?_, fun hfact r hr => hsingle facts r hr hfact⟩⟩
  -- both converses: a moment that is not fixed has a fixed partner that betrays it
  · rintro d rfl
    by_contra hnot
    obtain ⟨facts, hfact, now, now', hnow, hnow', hne⟩ := panel.exists_evaluate_ne_of_rule hnot
    exact hne (h facts hfact now now' hnow hnow')
  · intro m hm
    by_contra hnot
    obtain ⟨now, now', hnow, hnow', hne⟩ := panel.exists_evaluate_ne_of_fact hm hnot
    have hearly : (Rule.date .early).IsSteady := by
      rintro d hd
      cases hd
      exact ⟨_, rfl⟩
    exact hne (h _ hearly now now' hnow hnow')

end Panel

end Shortlist
