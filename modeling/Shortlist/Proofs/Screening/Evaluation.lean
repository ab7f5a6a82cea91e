import Shortlist.Proofs.Outcome
import Shortlist.Screening.Evaluation

/-!
# What an evaluation says about the rules

An evaluation that comes back has judged every rule, each by the fact that it reads
(`Panel.outcomes_of_evaluate`).  So it says that a candidate satisfies everything exactly if every
rule accepts its fact, and its reasons are the descriptions of the rules that do not, in order.
-/

namespace Shortlist

namespace Rule

/-- Whether a rule of any family is satisfied by a fact, at the time `now`. -/
def accepts (now : Instant) (rule : Rule) (fact : Value) : Except Unjudgeable Bool :=
  match rule with
  | .numeric r => .ok (r.accepts fact)
  | .date r => r.accepts now fact
  | .equality r => r.accepts fact

/-- The verdict on the fact that a rule reads. -/
def verdict (now : Instant) (facts : Facts) (r : Rule) : Except Unjudgeable Bool :=
  r.accepts now (facts.get r.field)

/-- The descriptions of the rules that turn their fact down, in order. -/
def unmetReasons (now : Instant) (facts : Facts) (rules : List Rule) : List Text :=
  (rules.filter fun r => (r.verdict now facts).toOption = some false).map (·.description)

/-- Equal verdicts make equal reasons. -/
lemma unmetReasons_congr {now now' : Instant} {facts facts' : Facts} {rules : List Rule}
    (h : ∀ r ∈ rules, r.verdict now' facts' = r.verdict now facts) :
    unmetReasons now' facts' rules = unmetReasons now facts rules := by
  unfold unmetReasons
  congr 1
  apply List.filter_congr
  intro r hr
  rw [h r hr]

end Rule

variable {panel : Panel} {now : Instant} {facts : Facts}

/-- An outcome that says what its rule says. -/
def Outcome.IsVerdict (now : Instant) (facts : Facts) (o : Outcome) : Prop :=
  o.rule.verdict now facts = .ok o.satisfied

/-- The outcome of a rule: it holds the rule, the fact that the rule reads, and the verdict on
it. -/
def Outcome.IsOf (now : Instant) (facts : Facts) (r : Rule) (o : Outcome) : Prop :=
  o.rule = r ∧ o.fact = facts.get r.field ∧ o.IsVerdict now facts

/-- The shipped evaluator of the family of a rule gives the verdict on the fact that the rule
reads. -/
lemma Evaluator.evaluate_shipped (r : Rule) :
    (Evaluator.shipped r.family).evaluate now r.condition facts
      = (r.accepts now (facts.get r.field)).map fun satisfied =>
        ⟨r, facts.get r.field, satisfied⟩ := by
  cases r <;> rfl

namespace Panel

/-- A panel has the shipped evaluator for every family. -/
lemma table_eq (panel : Panel) (family : Family) :
    panel.table family = some (.shipped family) := by
  obtain ⟨evaluator, hentry⟩ := Option.isSome_iff_exists.1 (panel.complete family)
  rw [hentry, panel.shipped family evaluator hentry]

/-- There always is an evaluator that judges a rule. -/
theorem judge_rule (panel : Panel) (r : Rule) :
    panel.judge now facts (.rule r) = (r.accepts now (facts.get r.field)).map fun satisfied =>
      ⟨r, facts.get r.field, satisfied⟩ := by
  rw [judge, EvaluatorTable.judge, panel.table_eq r.family]
  exact Evaluator.evaluate_shipped r

lemma judge_eq_ok {r : Rule} {o : Outcome} :
    panel.judge now facts (.rule r) = .ok o ↔ o.IsOf now facts r := by
  simp only [judge_rule, Except.map_eq_ok]
  constructor
  · rintro ⟨satisfied, hverdict, rfl⟩
    exact ⟨rfl, rfl, hverdict⟩
  · obtain ⟨rule, fact, satisfied⟩ := o
    rintro ⟨rfl, hfact, hverdict⟩
    have hfact : fact = facts.get rule.field := hfact
    exact ⟨satisfied, hverdict, by rw [hfact]⟩

/-- An evaluation comes back with the outcomes of its rules, in their order. -/
lemma evaluate_eq_ok {rules : List Rule} {e : Evaluation} :
    panel.evaluate now facts rules = .ok e
      ↔ List.Forall₂ (Outcome.IsOf now facts) rules e.outcomes := by
  simp only [evaluate, evaluateAll, Except.map_eq_ok, List.mapM_eq_ok, List.forall₂_map_left_iff,
    judge_eq_ok]
  constructor
  · rintro ⟨outcomes, h, rfl⟩
    exact h
  · exact fun h => ⟨e.outcomes, h, rfl⟩

/-- A rule that comes to a verdict is evaluated alone to that verdict. -/
lemma evaluate_singleton (panel : Panel) {r : Rule} {satisfied : Bool}
    (h : r.verdict now facts = .ok satisfied) :
    panel.evaluate now facts [r] = .ok ⟨[⟨r, facts.get r.field, satisfied⟩]⟩ :=
  evaluate_eq_ok.2 (.cons ⟨rfl, rfl, h⟩ .nil)

/-- An evaluation that comes back has one outcome for each rule, and each says what its rule
says. -/
theorem outcomes_of_evaluate {rules : List Rule} {e : Evaluation}
    (h : panel.evaluate now facts rules = .ok e) :
    e.outcomes.map (·.rule) = rules ∧ ∀ o ∈ e.outcomes, o.IsVerdict now facts := by
  obtain ⟨outcomes⟩ := e
  replace h : List.Forall₂ (Outcome.IsOf now facts) rules outcomes := evaluate_eq_ok.1 h
  induction h with
  | nil => exact ⟨rfl, by simp⟩
  | cons ho hrest ih =>
    obtain ⟨hrules, hverdicts⟩ := ih
    obtain ⟨rfl, -, hverdict⟩ := ho
    refine ⟨by rw [List.map_cons, hrules], ?_⟩
    simpa using ⟨hverdict, hverdicts⟩

end Panel

namespace Evaluation

variable {rules : List Rule} {e : Evaluation}

lemma satisfied_singleton (o : Outcome) : Evaluation.satisfied ⟨[o]⟩ = o.satisfied :=
  Bool.and_true o.satisfied

/-- A candidate satisfies everything exactly if every rule accepts its fact. -/
lemma satisfied_iff (h : panel.evaluate now facts rules = .ok e) :
    e.satisfied = true ↔ ∀ r ∈ rules, r.verdict now facts = .ok true := by
  obtain ⟨hrules, hverdicts⟩ := Panel.outcomes_of_evaluate h
  rw [satisfied, List.all_eq_true, ← hrules, List.forall_mem_map]
  refine forall₂_congr fun o ho => ?_
  rw [hverdicts o ho, Except.ok.injEq]

/-- Every rule comes to a verdict. -/
lemma exists_verdict (h : panel.evaluate now facts rules = .ok e) :
    ∀ r ∈ rules, ∃ satisfied, r.verdict now facts = .ok satisfied := by
  obtain ⟨hrules, hverdicts⟩ := Panel.outcomes_of_evaluate h
  rw [← hrules, List.forall_mem_map]
  exact fun o ho => ⟨o.satisfied, hverdicts o ho⟩

lemma reasons_of_verdicts {outcomes : List Outcome}
    (h : ∀ o ∈ outcomes, o.IsVerdict now facts) :
    (⟨outcomes⟩ : Evaluation).reasons = Rule.unmetReasons now facts (outcomes.map (·.rule)) := by
  induction outcomes with
  | nil => rfl
  | cons o outcomes ih =>
    have hverdict : o.rule.verdict now facts = .ok o.satisfied := h o List.mem_cons_self
    have hrest := ih fun o' ho' => h o' (List.mem_cons_of_mem _ ho')
    rw [reasons, Rule.unmetReasons] at hrest ⊢
    rw [List.map_cons, List.filterMap_cons, List.filter_cons, hverdict, Outcome.reason?]
    cases o.satisfied with
    | true => simpa [Except.toOption] using hrest
    | false => simpa [Except.toOption] using hrest

/-- The reasons are the descriptions of the rules that turn their fact down, in order. -/
lemma reasons_eq (h : panel.evaluate now facts rules = .ok e) :
    e.reasons = Rule.unmetReasons now facts rules := by
  obtain ⟨hrules, hverdicts⟩ := Panel.outcomes_of_evaluate h
  rw [reasons_of_verdicts hverdicts, hrules]

end Evaluation

end Shortlist
