import Shortlist.Proofs.Screening.Evaluation
import Shortlist.Proofs.Value.Plain

/-!
# When candidates can be judged

A fact may be any value, and a fact that makes no sense should fail the rules that read it and
nothing else.  Mostly it does: where a rule finds nothing in its fact, its verdict is that it is not
satisfied (`Rule.FindsNothing.accepts_eq`).  But three pairs of a rule and a fact have no verdict:

* a date rule cannot be judged by a text that is an interval from a duration to a duration;
* a date rule cannot be judged by a fact that is an instant when the offset of this instant, or of
  the moment in the rule, is a whole day or more — so a rule that can be read may be one that no
  date can be compared with;
* an equality rule cannot be judged by a fact that has an integer of more than `integerDigitLimit`
  digits in its text, at any depth.

`Rule.CanJudge` is what is left.  It is exact: an evaluation comes back if and only if every rule
can be judged by the fact that it reads (`Panel.evaluate_returns_iff`).

The text of a fact is taken to be there however deep its lists are.  There is a limit to how deep
the calls of a program may go, which depends on where it is called, and a text that needs more than
that cannot be had; this limit is left out here, as it is from `Value.display`.
-/

namespace Shortlist

/-! ## The integers in the text of a value -/

/-- The integers that the text of a key shows. -/
def Key.integers : Key → List Int
  | .int n => [n]
  | _ => []

namespace Value

mutual

/-- The integers that the text of a value shows. -/
def integers : Value → List Int
  | .int n => [n]
  | .set members => members.flatMap Key.integers
  | .pair first second => first.integers ++ second.integers
  | .list items => integersAll items
  | .mapping entries => integersEntries entries
  | _ => []

/-- The integers of the values of a list. -/
def integersAll : List Value → List Int
  | [] => []
  | v :: rest => v.integers ++ integersAll rest

/-- The integers of the entries of a mapping. -/
def integersEntries : List (Key × Value) → List Int
  | [] => []
  | (k, v) :: rest => k.integers ++ v.integers ++ integersEntries rest

end

/-- The text of a value shows no integer that is too long to be written. -/
def HasShortIntegers (v : Value) : Prop := ∀ n ∈ v.integers, digitCount n.natAbs ≤ integerDigitLimit

instance (v : Value) : Decidable v.HasShortIntegers :=
  inferInstanceAs (Decidable (∀ n ∈ v.integers, _))

variable {items : List Value} {entries : List (Key × Value)}

lemma integersAll_eq_flatMap (items : List Value) :
    integersAll items = items.flatMap integers := by
  induction items with
  | nil => rfl
  | cons v rest ih => rw [integersAll, ih, List.flatMap_cons]

lemma integersEntries_eq_flatMap (entries : List (Key × Value)) :
    integersEntries entries = entries.flatMap fun e => e.1.integers ++ e.2.integers := by
  induction entries with
  | nil => rfl
  | cons e rest ih => rw [integersEntries, ih, List.flatMap_cons]

lemma integers_ofKey (k : Key) : (ofKey k).integers = k.integers := by
  cases k <;> rfl

lemma hasShortIntegers_list :
    (Value.list items).HasShortIntegers ↔ ∀ v ∈ items, v.HasShortIntegers := by
  simp only [HasShortIntegers, integers, integersAll_eq_flatMap, List.mem_flatMap]
  constructor
  · intro h v hv n hn
    exact h n ⟨v, hv, hn⟩
  · rintro h n ⟨v, hv, hn⟩
    exact h v hv n hn

lemma hasShortIntegers_pair {first second : Value} :
    (Value.pair first second).HasShortIntegers
      ↔ first.HasShortIntegers ∧ second.HasShortIntegers := by
  simp only [HasShortIntegers, integers, List.forall_mem_append]

lemma hasShortIntegers_set {members : List Key} :
    (Value.set members).HasShortIntegers ↔ ∀ k ∈ members, (ofKey k).HasShortIntegers := by
  simp only [HasShortIntegers, integers, List.mem_flatMap, integers_ofKey]
  constructor
  · intro h k hk n hn
    exact h n ⟨k, hk, hn⟩
  · rintro h n ⟨k, hk, hn⟩
    exact h k hk n hn

lemma hasShortIntegers_mapping :
    (Value.mapping entries).HasShortIntegers
      ↔ ∀ e ∈ entries, (ofKey e.1).HasShortIntegers ∧ e.2.HasShortIntegers := by
  simp only [HasShortIntegers, integers, integersEntries_eq_flatMap, List.mem_flatMap,
    List.mem_append, integers_ofKey]
  constructor
  · intro h e he
    exact ⟨fun n hn => h n ⟨e, he, .inl hn⟩, fun n hn => h n ⟨e, he, .inr hn⟩⟩
  · rintro h n ⟨e, he, hn | hn⟩
    · exact (h e he).1 n hn
    · exact (h e he).2 n hn

/-! ## Values that have a text -/

lemma exists_intChars? {n : Int} :
    (∃ cs, intChars? n = .ok cs) ↔ digitCount n.natAbs ≤ integerDigitLimit := by
  rw [intChars?]
  split <;> simp_all

lemma exists_spellKey {k : Key} :
    (∃ cs, spellKey k = .ok cs) ↔ (ofKey k).HasShortIntegers := by
  cases k with
  | int n => simpa [spellKey, ofKey, HasShortIntegers, integers] using exists_intChars?
  | _ => simp [spellKey, ofKey, HasShortIntegers, integers]

lemma spellAll_eq_mapM (items : List Value) : spellAll items = items.mapM spell := by
  induction items with
  | nil => rfl
  | cons v rest ih => rw [spellAll, ih, List.mapM_cons]

/-- The text of an entry of a mapping. -/
def spellEntry (e : Key × Value) : Except IntegerTooLong (List Char) := do
  let key ← spellKey e.1
  let value ← spell e.2
  return key ++ ':' :: ' ' :: value

lemma spellEntries_eq_mapM (entries : List (Key × Value)) :
    spellEntries entries = entries.mapM spellEntry := by
  induction entries with
  | nil => rfl
  | cons e rest ih =>
    rw [spellEntries, ih, List.mapM_cons, spellEntry]
    cases spellKey e.1 with
    | error _ => rfl
    | ok key => cases spell e.2 <;> rfl

lemma exists_spellEntry {e : Key × Value} :
    (∃ cs, spellEntry e = .ok cs) ↔ (∃ cs, spellKey e.1 = .ok cs) ∧ ∃ cs, spell e.2 = .ok cs := by
  rw [spellEntry]
  cases spellKey e.1 with
  | error _ => simp [bind, Except.bind]
  | ok key => cases spell e.2 <;> simp [bind, Except.bind, pure, Except.pure]

/-- A value can be spelled exactly if the integers in it are short. -/
lemma exists_spell {v : Value} : (∃ cs, v.spell = .ok cs) ↔ v.HasShortIntegers := by
  induction v using Value.induction with
  | int n => simpa [spell, HasShortIntegers, integers] using exists_intChars?
  | list items ih =>
    have hitems : (∃ css, spellAll items = .ok css) ↔ ∀ v ∈ items, v.HasShortIntegers := by
      rw [spellAll_eq_mapM, List.exists_mapM_eq_ok]
      exact forall₂_congr ih
    rw [hasShortIntegers_list, ← hitems, spell]
    cases spellAll items <;> simp [bind, Except.bind, pure, Except.pure]
  | pair first second hfirst hsecond =>
    rw [hasShortIntegers_pair, ← hfirst, ← hsecond, spell]
    cases first.spell with
    | error _ => simp [bind, Except.bind]
    | ok cs => cases second.spell <;> simp [bind, Except.bind, pure, Except.pure]
  | set members =>
    have hmembers : (∃ css, members.mapM spellKey = .ok css)
        ↔ ∀ k ∈ members, (ofKey k).HasShortIntegers := by
      rw [List.exists_mapM_eq_ok]
      exact forall₂_congr fun k _ => exists_spellKey
    rw [hasShortIntegers_set, ← hmembers, spell, spellSet]
    cases members with
    | nil => simp [pure, Except.pure]
    | cons k rest =>
      rw [if_neg (by simp)]
      cases (k :: rest).mapM spellKey <;> simp [bind, Except.bind, pure, Except.pure]
  | mapping entries ih =>
    have hentries : (∃ css, spellEntries entries = .ok css)
        ↔ ∀ e ∈ entries, (ofKey e.1).HasShortIntegers ∧ e.2.HasShortIntegers := by
      rw [spellEntries_eq_mapM, List.exists_mapM_eq_ok]
      refine forall₂_congr fun e he => ?_
      rw [exists_spellEntry, exists_spellKey, ih e he]
    rw [hasShortIntegers_mapping, ← hentries, spell]
    cases spellEntries entries <;> simp [bind, Except.bind, pure, Except.pure]
  | loop isMapping _ => cases isMapping <;> simp [spell, HasShortIntegers, integers]
  | _ => simp [spell, HasShortIntegers, integers]

/-- A value has a text exactly if the integers in it are short. -/
lemma exists_display {v : Value} : (∃ t, v.display = .ok t) ↔ v.HasShortIntegers := by
  rw [← exists_spell]
  unfold display
  split
  · simp [spell]
  · simp [spell]
  · simp [spell]
  · exact Except.exists_map_eq_ok

end Value

/-! ## Dates -/

namespace Calendar

/-- An interval is written with a slash. -/
lemma contains_of_isDurationPair {cs : List Char} (h : isDurationPair cs = true) :
    cs.contains '/' = true := by
  by_contra hnone
  -- without a slash there is no second part
  have hdrop : cs.dropWhile (· ≠ '/') = [] := by
    rw [List.dropWhile_eq_nil_iff]
    intro c hc
    simpa using fun heq : c = '/' => hnone (by simpa [heq] using hc)
  rw [isDurationPair, hdrop] at h
  simp [isDuration] at h

end Calendar

/-- A text stands for something exactly if it is no interval between durations. -/
lemma Moment.exists_read? {s : String} :
    (∃ m, Moment.read? s = .ok m) ↔ Calendar.isDurationPair (Text.trim s.toList) = false := by
  simp only [Moment.read?]
  generalize Text.trim s.toList = cs
  by_cases hnow : cs = ['n', 'o', 'w']
  · have hno : Calendar.isDurationPair ['n', 'o', 'w'] = false := rfl
    simp [hnow, hno]
  · rw [if_neg hnow]
    by_cases hpair : Calendar.isDurationPair cs = true
    · rw [hpair, Calendar.contains_of_isDurationPair hpair]
      simp
    · simp [hpair]

example : Moment.read? "P1M/P1M" = .error .mk := by decide

namespace Value

/-- Whether a fact is a text that is an interval between durations, blanks at its ends aside. -/
def isDurationPair : Value → Bool
  | .text t => t.string?.any fun s => Calendar.isDurationPair (Text.trim s.toList)
  | _ => false

/-- It is known of every other fact whether it denotes an instant. -/
lemma exists_instant? (now : Instant) {fact : Value} :
    (∃ t, fact.instant? now = .ok t) ↔ fact.isDurationPair = false := by
  cases fact with
  | text t =>
    rw [instant?, isDurationPair]
    cases t.string? with
    | none => simp
    | some s => simpa [Instant.read?, Except.exists_map_eq_ok] using Moment.exists_read?
  | _ => simp [instant?, isDurationPair]

end Value

lemma Instant.checked_of_hasUsableOffset {t : Instant} (h : t.hasUsableOffset = true) :
    t.checked = .ok t := if_pos h

lemma Instant.checked_of_not_hasUsableOffset {t : Instant} (h : ¬ t.hasUsableOffset = true) :
    t.checked = .error ⟨t.zone.micros⟩ := if_neg h

/-! ## Rules that can be judged -/

variable {panel : Panel} {now : Instant} {facts : Facts} {fact : Value}

/-- A date rule can be judged by a fact that is no interval between durations and that denotes, if
any, an instant which can be compared with the moment in the rule. -/
def DateRule.CanJudge (now : Instant) (r : DateRule) (fact : Value) : Prop :=
  fact.isDurationPair = false ∧ ∀ t, fact.instant? now = .ok (some t) →
    t.hasUsableOffset = true ∧ (r.moment.instant now).hasUsableOffset = true

/-- The facts by which a rule can be judged. -/
def Rule.CanJudge (now : Instant) (r : Rule) (fact : Value) : Prop :=
  match r with
  | .numeric _ => True
  | .date r => r.CanJudge now fact
  | .equality _ => fact.HasShortIntegers

lemma DateRule.exists_accepts {r : DateRule} :
    (∃ verdict, r.accepts now fact = .ok verdict) ↔ r.CanJudge now fact := by
  rw [DateRule.CanJudge, ← Value.exists_instant? now, DateRule.accepts]
  cases fact.instant? now with
  | error fault => simp
  | ok candidate? =>
    cases candidate? with
    | none => simp
    | some candidate =>
      simp only [Except.ok.injEq, Option.some.injEq, exists_eq', true_and, forall_eq']
      by_cases hcandidate : candidate.hasUsableOffset = true
      · rw [Instant.checked_of_hasUsableOffset hcandidate]
        by_cases hbound : (r.moment.instant now).hasUsableOffset = true
        · simp [Instant.checked_of_hasUsableOffset hbound, hcandidate, hbound]
        · simp [Instant.checked_of_not_hasUsableOffset hbound, hbound]
      · simp [Instant.checked_of_not_hasUsableOffset hcandidate, hcandidate]

-- the moment of this rule can be read, and nothing can be compared with it
example :
    (Moment.read? "2022-07-01T02:00:00+24:00").map (·.map fun m => (m.instant now).hasUsableOffset)
      = .ok (some false) := rfl

lemma EqualityRule.exists_accepts {r : EqualityRule} :
    (∃ verdict, r.accepts fact = .ok verdict) ↔ fact.HasShortIntegers := by
  rw [EqualityRule.accepts, ← Value.exists_display]
  by_cases hblank : fact.isBlank = true
  · -- a blank fact is its own text
    have hdisplay : ∃ t, fact.display = .ok t := by
      cases fact with
      | null => exact ⟨_, rfl⟩
      | text t => exact ⟨t, rfl⟩
      | _ => cases hblank
    simp [hblank, hdisplay]
  · rw [if_neg hblank]
    cases fact.display <;> simp

/-- A rule comes to a verdict on exactly the facts by which it can be judged. -/
lemma Rule.exists_accepts {r : Rule} :
    (∃ verdict, r.accepts now fact = .ok verdict) ↔ r.CanJudge now fact := by
  cases r with
  | numeric r => simp [Rule.accepts, Rule.CanJudge]
  | date r => exact DateRule.exists_accepts
  | equality r => exact EqualityRule.exists_accepts

/-! ## Facts in which a rule finds nothing -/

/-- A fact that is absent or malformed for a rule: no finite number, no instant, no text.  A fact
that is null is one for every rule (`Rule.findsNothing_null`). -/
def Rule.FindsNothing (now : Instant) (r : Rule) (fact : Value) : Prop :=
  match r with
  | .numeric _ => fact.isNumber = false
  | .date _ => fact.instant? now = .ok none
  | .equality _ => fact.isBlank = true

namespace Rule

theorem findsNothing_null (r : Rule) : r.FindsNothing now .null := by
  cases r <;> rfl

/-- A rule that finds nothing in its fact is not satisfied. -/
theorem FindsNothing.accepts_eq {r : Rule} (h : r.FindsNothing now fact) :
    r.accepts now fact = .ok false := by
  cases r with
  | numeric r =>
    have hnumber : fact.number? = none :=
      Option.isNone_iff_eq_none.1 (Option.isSome_eq_false_iff.1 h)
    rw [Rule.accepts, NumericRule.accepts, hnumber]
  | date r =>
    have hinstant : fact.instant? now = .ok none := h
    rw [Rule.accepts, DateRule.accepts, hinstant]
  | equality r =>
    have hblank : fact.isBlank = true := h
    rw [Rule.accepts, EqualityRule.accepts, if_pos hblank]

lemma FindsNothing.canJudge {r : Rule} (h : r.FindsNothing now fact) : r.CanJudge now fact :=
  exists_accepts.1 ⟨false, h.accepts_eq⟩

end Rule

/-! ## Evaluations that come back -/

namespace Panel

lemma exists_judge {r : Rule} :
    (∃ o, panel.judge now facts (.rule r) = .ok o) ↔ r.CanJudge now (facts.get r.field) := by
  rw [judge_rule, Except.exists_map_eq_ok, Rule.exists_accepts]

lemma exists_evaluate (panel : Panel) {rules : List Rule} :
    (∃ e, panel.evaluate now facts rules = .ok e)
      ↔ ∀ r ∈ rules, r.CanJudge now (facts.get r.field) := by
  rw [evaluate, evaluateAll, Except.exists_map_eq_ok, List.exists_mapM_eq_ok, List.forall_mem_map]
  exact forall₂_congr fun r _ => exists_judge

/-- An evaluation comes back if and only if every rule can be judged by the fact that it reads.  It
then has an outcome for each rule, and a rule that finds nothing in its fact is not satisfied;
no such fact keeps an evaluation from coming back.  How deep the calls for the text of a fact may go
is not looked at (`Value.display`). -/
theorem evaluate_returns_iff (panel : Panel) (now : Instant) (facts : Facts) (rules : List Rule) :
    ((∃ e, panel.evaluate now facts rules = .ok e ∧ e.outcomes.map (·.rule) = rules ∧
        ∀ o ∈ e.outcomes, o.rule.FindsNothing now (facts.get o.rule.field) → o.satisfied = false)
      ↔ ∀ r ∈ rules, r.CanJudge now (facts.get r.field))
    ∧ ∀ (r : Rule) (fact : Value), r.FindsNothing now fact → r.CanJudge now fact := by
  refine ⟨?_, fun r fact h => h.canJudge⟩
  rw [← exists_evaluate panel]
  constructor
  · rintro ⟨e, he, -⟩
    exact ⟨e, he⟩
  · rintro ⟨e, he⟩
    obtain ⟨hrules, hverdicts⟩ := outcomes_of_evaluate he
    refine ⟨e, he, hrules, fun o ho hnothing => ?_⟩
    have hverdict : o.rule.accepts now (facts.get o.rule.field) = .ok o.satisfied := hverdicts o ho
    rw [hnothing.accepts_eq] at hverdict
    exact (Except.ok.inj hverdict).symm

end Panel

end Shortlist
