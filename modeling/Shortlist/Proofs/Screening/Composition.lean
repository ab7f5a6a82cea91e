import Mathlib.Data.List.Perm.Basic
import Shortlist.Proofs.Rule.Document
import Shortlist.Proofs.Screening.Evaluation

/-!
# How evaluations are put together

Every rule is judged on its own, and no rule is left out: an evaluation is a list of outcomes, one
for each rule.  Its flag, its reasons and the mapping that shows it are three views of that list,
and `Evaluation.IsAccountOf` says how they agree.

So evaluations go along with what is done to the rules (`Panel.evaluate_composes`).  Rules in a row
give their outcomes and reasons in a row; rules in another order give the same outcomes in another
order; and with more rules it only gets harder to satisfy all of them.
-/

namespace Shortlist

variable {panel : Panel} {now : Instant} {facts : Facts} {xs ys rules : List Rule} {e : Evaluation}

/-! ## The views of an outcome -/

namespace Outcome

lemma reason?_eq_none_iff {o : Outcome} : o.reason? = none ↔ o.satisfied = true := by
  rw [reason?]
  cases o.satisfied <;> simp

lemma reason?_of_not_satisfied {o : Outcome} (h : o.satisfied = false) :
    o.reason? = some o.rule.description := by
  rw [reason?, h, if_neg Bool.false_ne_true]

/-- A mapping that shows an outcome: a rule that reads back as its rule, the verdict, and the reason
or null. -/
def IsShownBy (o : Outcome) (v : Value) : Prop :=
  ∃ rule, v = .record [("rule", rule), ("satisfied", .bool o.satisfied),
      ("reason", .ofText? o.reason?)]
    ∧ Rule.read rule = .accepted o.rule

lemma isShownBy_toValue (o : Outcome) : o.IsShownBy o.toValue :=
  ⟨o.rule.toValue, rfl, o.rule.read_toValue⟩

end Outcome

/-! ## The views of an evaluation -/

namespace Evaluation

/-- No rule is left out of the reasons, and none is named twice for one outcome. -/
lemma reasons_eq_filter (e : Evaluation) :
    e.reasons = (e.outcomes.filter fun o => !o.satisfied).map (·.rule.description) := by
  obtain ⟨outcomes⟩ := e
  rw [reasons]
  induction outcomes with
  | nil => rfl
  | cons o rest ih =>
    rw [List.filterMap_cons, List.filter_cons]
    cases ho : o.satisfied with
    | true =>
      have hreason : o.reason? = none := Outcome.reason?_eq_none_iff.2 ho
      simpa [hreason] using ih
    | false =>
      have hreason : o.reason? = some o.rule.description := Outcome.reason?_of_not_satisfied ho
      simpa [hreason] using ih

lemma satisfied_iff_reasons_eq_nil (e : Evaluation) : e.satisfied = true ↔ e.reasons = [] := by
  rw [satisfied, reasons, List.all_eq_true, List.filterMap_eq_nil_iff]
  exact forall₂_congr fun o _ => Outcome.reason?_eq_none_iff.symm

/-- A mapping that shows an evaluation: its flag, its reasons, and a mapping for each outcome. -/
def IsShownBy (e : Evaluation) (v : Value) : Prop :=
  ∃ items, v = .record [("satisfied", .bool e.satisfied), ("reasons", .list (e.reasons.map .text)),
      ("outcomes", .list items)]
    ∧ List.Forall₂ Outcome.IsShownBy e.outcomes items

lemma isShownBy_toValue (e : Evaluation) : e.IsShownBy e.toValue := by
  refine ⟨e.outcomes.map (·.toValue), rfl, ?_⟩
  rw [List.forall₂_map_right_iff, List.forall₂_same]
  exact fun o _ => o.isShownBy_toValue

/-- What an evaluation of rules by facts says, and how its views agree. -/
structure IsAccountOf (now : Instant) (facts : Facts) (rules : List Rule) (e : Evaluation) :
    Prop where
  /-- There is one outcome for each rule, in the order of the rules. -/
  outcomes : List.Forall₂ (Outcome.IsOf now facts) rules e.outcomes
  reason_none : ∀ o ∈ e.outcomes, o.reason? = none ↔ o.satisfied = true
  reason_some : ∀ o ∈ e.outcomes, o.satisfied = false → o.reason? = some o.rule.description
  reasons : e.reasons = e.outcomes.filterMap (·.reason?)
  reasons_filter : e.reasons = (e.outcomes.filter fun o => !o.satisfied).map (·.rule.description)
  satisfied_iff : e.satisfied = true ↔ e.reasons = []
  shown : e.IsShownBy e.toValue

lemma isAccountOf_of_evaluate (h : panel.evaluate now facts rules = .ok e) :
    e.IsAccountOf now facts rules where
  outcomes := Panel.evaluate_eq_ok.1 h
  reason_none _ _ := Outcome.reason?_eq_none_iff
  reason_some _ _ := Outcome.reason?_of_not_satisfied
  reasons := rfl
  reasons_filter := e.reasons_eq_filter
  satisfied_iff := e.satisfied_iff_reasons_eq_nil
  shown := e.isShownBy_toValue

/-- The outcomes of two evaluations in a row. -/
structure IsConcat (e e₁ e₂ : Evaluation) : Prop where
  outcomes : e.outcomes = e₁.outcomes ++ e₂.outcomes
  reasons : e.reasons = e₁.reasons ++ e₂.reasons
  satisfied : e.satisfied = (e₁.satisfied && e₂.satisfied)

lemma isConcat_of_outcomes {e e₁ e₂ : Evaluation} (h : e.outcomes = e₁.outcomes ++ e₂.outcomes) :
    e.IsConcat e₁ e₂ where
  outcomes := h
  reasons := by rw [reasons, h, List.filterMap_append, reasons, reasons]
  satisfied := by rw [satisfied, h, List.all_append, satisfied, satisfied]

/-- The outcomes of an evaluation in another order. -/
structure IsReordered (e e' : Evaluation) : Prop where
  outcomes : e.outcomes.Perm e'.outcomes
  reasons : e.reasons.Perm e'.reasons
  satisfied : e.satisfied = e'.satisfied

lemma isReordered_of_outcomes {e e' : Evaluation} (h : e.outcomes.Perm e'.outcomes) :
    e.IsReordered e' where
  outcomes := h
  reasons := h.filterMap _
  satisfied := h.all_eq

end Evaluation

/-! ## What is done to the rules -/

namespace Panel

lemma evaluate_append :
    panel.evaluate now facts (xs ++ ys) = .ok e
      ↔ ∃ e₁ e₂, panel.evaluate now facts xs = .ok e₁ ∧ panel.evaluate now facts ys = .ok e₂
        ∧ e.IsConcat e₁ e₂ := by
  simp only [evaluate, evaluateAll, Except.map_eq_ok, List.map_append, List.mapM_append_eq_ok]
  constructor
  · rintro ⟨_, ⟨outcomes₁, outcomes₂, h₁, h₂, rfl⟩, rfl⟩
    exact ⟨⟨outcomes₁⟩, ⟨outcomes₂⟩, ⟨_, h₁, rfl⟩, ⟨_, h₂, rfl⟩,
      Evaluation.isConcat_of_outcomes rfl⟩
  · rintro ⟨_, _, ⟨outcomes₁, h₁, rfl⟩, ⟨outcomes₂, h₂, rfl⟩, hconcat⟩
    exact ⟨_, ⟨outcomes₁, outcomes₂, h₁, h₂, hconcat.outcomes⟩, rfl⟩

lemma evaluate_perm (hperm : xs.Perm ys) (h : panel.evaluate now facts xs = .ok e) :
    ∃ e', panel.evaluate now facts ys = .ok e' ∧ e.IsReordered e' := by
  obtain ⟨outcomes, hall, houtcomes⟩ := List.perm_comp_forall₂ hperm.symm (evaluate_eq_ok.1 h)
  exact ⟨⟨outcomes⟩, evaluate_eq_ok.2 hall, Evaluation.isReordered_of_outcomes houtcomes.symm⟩

/-- What satisfies some rules satisfies any of them alone. -/
lemma satisfied_of_subset {e' : Evaluation} (hsubset : xs ⊆ ys)
    (h : panel.evaluate now facts xs = .ok e) (h' : panel.evaluate now facts ys = .ok e')
    (hsatisfied : e'.satisfied = true) : e.satisfied = true := by
  rw [Evaluation.satisfied_iff h'] at hsatisfied
  rw [Evaluation.satisfied_iff h]
  exact fun r hr => hsatisfied r (hsubset hr)

/-- An evaluation gives an account of its rules.  That of two lists of rules in a row comes back
exactly if those of both do, and puts them in a row; that of the same rules in another order
comes back in that order; and with more rules, an evaluation that was not satisfied never becomes
satisfied.  Where no facts are given, this is so for empty ones. -/
theorem evaluate_composes (panel : Panel) (now : Instant) (given : Option Facts) :
    let evaluate := panel.evaluate now (given.getD .none)
    (∀ rules e, evaluate rules = .ok e → e.IsAccountOf now (given.getD .none) rules)
    ∧ (∀ xs ys e, evaluate (xs ++ ys) = .ok e
      ↔ ∃ e₁ e₂, evaluate xs = .ok e₁ ∧ evaluate ys = .ok e₂ ∧ e.IsConcat e₁ e₂)
    ∧ (∀ xs ys e, xs.Perm ys → evaluate xs = .ok e
      → ∃ e', evaluate ys = .ok e' ∧ e.IsReordered e')
    ∧ (∀ xs ys e e', xs ⊆ ys → evaluate xs = .ok e → evaluate ys = .ok e'
      → e.satisfied = false → e'.satisfied = false) := by
  intro evaluate
  refine ⟨fun rules e h => Evaluation.isAccountOf_of_evaluate h, fun xs ys e => evaluate_append,
    fun xs ys e hperm h => evaluate_perm hperm h, fun xs ys e e' hsubset h h' hunsatisfied => ?_⟩
  by_contra hsatisfied
  have hall := satisfied_of_subset hsubset h h' (Bool.not_eq_false _ ▸ hsatisfied)
  rw [hunsatisfied] at hall
  cases hall

end Panel

end Shortlist
