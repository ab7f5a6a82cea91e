import Shortlist.Proofs.Outcome
import Shortlist.Proofs.Screening.Evaluation

/-!
# Which evaluator judges a rule

A panel is made from a list of shipped evaluators, one for each family of rules or several, in any
order.  They are entered in a table by their family, where a later one takes the place of an earlier
one (`EvaluatorTable.ofList_eq`).  Making the panel fails unless the table has an entry for every
family, so no rule misses its evaluator afterwards (`Panel.judge_rule`).  Whichever evaluator is
found for a rule then, it is the shipped one of the family, so what a panel says does not depend on
the list it was made from (`Panel.judge_eq`).

A value that is no rule has no evaluator in any table.  Requirements are judged in order and the
first that cannot be judged ends the evaluation, so among rules that all come to a verdict it is the
first such value that is named (`Panel.evaluateAll_of_other`).
-/

namespace Shortlist

variable {evaluators : List ShippedEvaluator} {family : Family}

/-! ## The table of evaluators -/

namespace EvaluatorTable

/-- The table of shipped evaluators that are entered in order. -/
def entered (evaluators : List ShippedEvaluator) : EvaluatorTable :=
  ofList (evaluators.map (·.1))

lemma isSome_entered :
    (entered evaluators family).isSome ↔ ∃ e ∈ evaluators, e.1.family = family := by
  rw [entered, ofList_eq, List.getLast?_isSome, ne_eq, List.filterMap_eq_nil_iff]
  simp [FamilyEvaluator.for?]

lemma mem_missing_entered :
    family ∈ (entered evaluators).missing ↔ ∀ e ∈ evaluators, e.1.family ≠ family := by
  have hall : family ∈ Family.all := by cases family <;> decide
  simp [missing, hall, ← Option.not_isSome_iff_eq_none, isSome_entered]

end EvaluatorTable

namespace Panel

open EvaluatorTable

variable {panel : Panel} {now : Instant} {facts : Facts} {left : List Family}

lemma ofEvaluators_eq_ok : ofEvaluators evaluators = .ok panel ↔
    (entered evaluators).missing = [] ∧ panel.table = entered evaluators := by
  obtain ⟨table, shipped, complete⟩ := panel
  by_cases h : (entered evaluators).missing = []
  · rw [show ofEvaluators evaluators = .ok _ from dif_pos h, Except.ok.injEq, Panel.mk.injEq]
    exact ⟨fun htable => ⟨h, htable.symm⟩, fun htable => htable.2.symm⟩
  · rw [show ofEvaluators evaluators = .error _ from dif_neg h]
    simp [h]

lemma exists_ofEvaluators_eq_ok : (∃ panel, ofEvaluators evaluators = .ok panel) ↔
    ∀ family, ∃ e ∈ evaluators, e.1.family = family := by
  simp only [← isSome_entered, ← missing_eq_nil_iff]
  constructor
  · rintro ⟨panel, hpanel⟩
    exact (ofEvaluators_eq_ok.1 hpanel).1
  · exact fun h => ⟨_, dif_pos h⟩

/-- These are the families of which there is no evaluator, in the order of all families. -/
structure IsLeftOut (evaluators : List ShippedEvaluator) (left : List Family) : Prop where
  ordered : left.Sublist Family.all
  mem_iff : ∀ family, family ∈ left ↔ ∀ e ∈ evaluators, e.1.family ≠ family

lemma isLeftOut_missing (evaluators : List ShippedEvaluator) :
    IsLeftOut evaluators (entered evaluators).missing where
  ordered := List.filter_sublist
  mem_iff _ := mem_missing_entered

lemma ofEvaluators_of_leftOut (h : ∀ e ∈ evaluators, e.1.family ≠ family) :
    ofEvaluators evaluators = .error (entered evaluators).missing :=
  dif_neg (List.ne_nil_of_mem (mem_missing_entered.2 h))

lemma quoted_name (family : Family) : Text.quoted family.name = "'" ++ family.name ++ "'" := by
  cases family <;> decide +kernel

/-- The names are listed as they are, each between quotes. -/
lemma missingMessage_eq (left : List Family) :
    missingMessage left = "No evaluator registered for rule families: ["
      ++ ", ".intercalate (left.map fun family => "'" ++ family.name ++ "'") ++ "]" := by
  unfold missingMessage
  rw [List.map_congr_left fun family _ => quoted_name family]

/-! ## What a panel says -/

/-- What a panel says does not depend on its evaluators. -/
theorem judge_eq (panel panel' : Panel) : panel.judge now facts = panel'.judge now facts := by
  funext requirement
  cases requirement with
  | rule r => rw [panel.judge_rule, panel'.judge_rule]
  | other v => rfl

lemma evaluateAll_eq (panel panel' : Panel) (requirements : List Requirement) :
    panel.evaluateAll now facts requirements = panel'.evaluateAll now facts requirements := by
  rw [evaluateAll, evaluateAll, panel.judge_eq panel']

/-! ## Values that are no rules -/

/-- The rules among requirements, in order. -/
def rulesAmong (requirements : List Requirement) : List Rule :=
  requirements.filterMap fun
    | .rule r => some r
    | .other _ => none

/-- Requirements with a value that is no rule are rules up to the first such value. -/
lemma exists_first_other {requirements : List Requirement}
    (h : ∃ v, .other v ∈ requirements) :
    ∃ (before : List Rule) (v : Value) (after : List Requirement),
      requirements = before.map .rule ++ .other v :: after := by
  induction requirements with
  | nil => simp at h
  | cons requirement requirements ih =>
    cases requirement with
    | other v => exact ⟨[], v, requirements, rfl⟩
    | rule r =>
      obtain ⟨before, v, after, rfl⟩ := ih (by simpa using h)
      exact ⟨r :: before, v, after, rfl⟩

/-- After rules that come to a verdict, a value that is no rule is named. -/
theorem evaluateAll_of_other {before : List Rule} {v : Value} {after : List Requirement}
    {e : Evaluation} (h : panel.evaluate now facts before = .ok e) :
    panel.evaluateAll now facts (before.map .rule ++ .other v :: after)
      = .error (.noRule v.kindWord) := by
  obtain ⟨outcomes, hbefore, -⟩ := Except.map_eq_ok.1 h
  rw [evaluateAll, List.mapM_append, hbefore, List.mapM_cons]
  rfl

lemma evaluateAll_ne_ok_of_other {requirements : List Requirement}
    (h : ∃ v, .other v ∈ requirements) (e : Evaluation) :
    panel.evaluateAll now facts requirements ≠ .ok e := by
  obtain ⟨v, hv⟩ := h
  intro hok
  obtain ⟨outcomes, hall, -⟩ := Except.map_eq_ok.1 hok
  obtain ⟨o, ho⟩ := List.exists_mapM_eq_ok.1 ⟨outcomes, hall⟩ _ hv
  cases ho

lemma rulesAmong_of_first (before : List Rule) (v : Value) (after : List Requirement) :
    rulesAmong (before.map .rule ++ .other v :: after) = before ++ rulesAmong after := by
  simp [rulesAmong, List.filterMap_append, List.filterMap_map]

lemma exists_evaluate_of_append {before after : List Rule}
    (h : ∃ e, panel.evaluate now facts (before ++ after) = .ok e) :
    ∃ e, panel.evaluate now facts before = .ok e := by
  obtain ⟨e, he⟩ := h
  simp only [evaluate, evaluateAll, Except.map_eq_ok, List.map_append, List.mapM_append_eq_ok] at he
  obtain ⟨_, ⟨outcomes, _, hbefore, -⟩, -⟩ := he
  exact ⟨⟨outcomes⟩, Except.map_eq_ok.2 ⟨outcomes, hbefore, rfl⟩⟩

/-- A panel can be made from shipped evaluators exactly if every family has one, and otherwise it is
said which families have none, in the order of all families.  A panel that was made finds for every
rule the last evaluator that was entered for its family, and judges as the standard panel does, also
where no facts are given.  If some of what it is asked to judge by are no rules, no evaluation comes
back, and if the rules come to their verdicts, the first of these values is named by its kind. -/
theorem ofEvaluators_dispatches (evaluators : List ShippedEvaluator) :
    ((∃ panel, ofEvaluators evaluators = .ok panel)
        ↔ ∀ family, ∃ e ∈ evaluators, e.1.family = family)
    ∧ ((∃ family, ∀ e ∈ evaluators, e.1.family ≠ family) →
      ∃ left, ofEvaluators evaluators = .error left ∧ left ≠ [] ∧ IsLeftOut evaluators left
        ∧ missingMessage left = "No evaluator registered for rule families: ["
          ++ ", ".intercalate (left.map fun family => "'" ++ family.name ++ "'") ++ "]")
    ∧ ∀ panel, ofEvaluators evaluators = .ok panel →
      (∀ r : Rule, ∃ found, panel.table r.family = some found
        ∧ (evaluators.filterMap (·.1.for? r.family)).getLast? = some found)
      ∧ ∀ (now : Instant) (given : Option Facts),
        let evaluateAll := panel.evaluateAll now (given.getD .none)
        let evaluate := standard.evaluate now (given.getD .none)
        (∀ rules, panel.evaluate now (given.getD .none) rules = evaluate rules)
        ∧ ∀ requirements, (∃ v, .other v ∈ requirements) →
          (∀ e, evaluateAll requirements ≠ .ok e)
          ∧ ((∃ e, evaluate (rulesAmong requirements) = .ok e) →
            ∃ (before : List Rule) (v : Value) (after : List Requirement) (fault : Unjudgeable),
              requirements = before.map .rule ++ .other v :: after
              ∧ evaluateAll requirements = .error fault ∧ fault = .noRule v.kindWord
              ∧ fault.message? = some ("Unsupported rule type: " ++ v.kindWord)) := by
  refine ⟨exists_ofEvaluators_eq_ok, ?_, fun panel hpanel => ⟨fun r => ?_, fun now given => ?_⟩⟩
  · rintro ⟨family, hfamily⟩
    refine ⟨_, ofEvaluators_of_leftOut hfamily, ?_, isLeftOut_missing evaluators,
      missingMessage_eq _⟩
    exact List.ne_nil_of_mem (mem_missing_entered.2 hfamily)
  · -- the table was filled by the list, and whatever it lacks would have been missed before
    have htable := (ofEvaluators_eq_ok.1 hpanel).2
    refine ⟨.shipped r.family, panel.table_eq r.family, ?_⟩
    rw [← panel.table_eq r.family, htable, entered, ofList_eq, List.filterMap_map]
    rfl
  · intro evaluateAll evaluate
    refine ⟨fun rules => evaluateAll_eq panel standard _, fun requirements hother => ⟨?_, ?_⟩⟩
    · exact evaluateAll_ne_ok_of_other hother
    · intro hrules
      obtain ⟨before, v, after, rfl⟩ := exists_first_other hother
      rw [rulesAmong_of_first] at hrules
      obtain ⟨e, he⟩ := exists_evaluate_of_append hrules
      have hnamed : evaluateAll (before.map .rule ++ .other v :: after)
          = .error (.noRule v.kindWord) :=
        evaluateAll_of_other ((evaluateAll_eq panel standard _).trans he)
      exact ⟨before, v, after, _, rfl, hnamed, rfl, rfl⟩

example : ofEvaluators [.of .equality, .of .numeric, .of .equality] = .error [.date] := rfl

end Panel

end Shortlist
