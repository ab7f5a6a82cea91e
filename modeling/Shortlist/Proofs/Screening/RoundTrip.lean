import Shortlist.Proofs.Application
import Shortlist.Proofs.Rule.Document
import Shortlist.Proofs.Screening.Evaluation

/-!
# Rules keep their shape

Rules are read from a list of mappings and written to one.  Reading accepts a list exactly if it is,
but for the order of the entries in each mapping, the list that the rules are written to
(`Rule.readList_iff`).  So nothing is put into another form on the way: not an integer into a
double, not one sign of equality into the other, not a date into another way to write it.

An evaluation is shown with the rules that it judged.  They can be taken out of what is shown, read,
and judged again by the same facts, and what is shown is the same (`Panel.evaluateAll_reproduces`).
-/

namespace Shortlist

variable {fields : List (String × Value)} {v w raw : Value} {r : Rule} {rules : List Rule}

/-! ## Mappings without their order -/

namespace Entries

/-- The value under a key of any kind. -/
def at? (es : Entries) (k : Key) : Option Value := (es.find? fun e => e.1 = k).map (·.2)

lemma at?_eq_none_iff {es : Entries} {k : Key} : es.at? k = none ↔ ∀ e ∈ es, e.1 ≠ k := by
  simp [at?]

end Entries

namespace Value

/-- Two mappings have the same keys, and the same values under them, in whatever order. -/
inductive SameMapping : Value → Value → Prop
  | mapping {es fs : Entries} (h : ∀ k, es.at? k = fs.at? k) :
    SameMapping (.mapping es) (.mapping fs)

/-- Two lists hold the same mappings one by one. -/
inductive SameMappings : Value → Value → Prop
  | list {vs ws : List Value} (h : vs.Forall₂ SameMapping ws) : SameMappings (.list vs) (.list ws)

/-- Two records of the same members are the same mapping. -/
lemma SameMapping.of_isRecordOf (hv : v.IsRecordOf fields) (hw : w.IsRecordOf fields) :
    v.SameMapping w := by
  obtain ⟨es, rfl, hes, hkeys⟩ := hv
  obtain ⟨fs, rfl, hfs, hkeys'⟩ := hw
  refine .mapping fun k => ?_
  by_cases hk : ∃ f ∈ fields, k = .name f.1
  · obtain ⟨f, hf, rfl⟩ := hk
    exact (hes f hf).trans (hfs f hf).symm
  · have hnone {gs : Entries} (hgs : ∀ e ∈ gs, ∃ f ∈ fields, e.1 = .name f.1) :
        gs.at? k = none := by
      refine Entries.at?_eq_none_iff.2 fun e he hek => hk ?_
      rw [← hek]
      exact hgs e he
    rw [hnone hkeys, hnone hkeys']

/-- What is the same mapping as a record is a record of the same members. -/
lemma SameMapping.isRecordOf (h : v.SameMapping w) (hw : w.IsRecordOf fields) :
    v.IsRecordOf fields := by
  obtain @⟨es, fs, h⟩ := h
  obtain ⟨_, heq, hfs, hkeys⟩ := hw
  cases heq
  refine ⟨es, rfl, fun f hf => (h _).trans (hfs f hf), fun e he => ?_⟩
  have hsome : fs.at? e.1 ≠ none := by
    rw [← h, ne_eq, Entries.at?_eq_none_iff]
    exact fun hall => hall e he rfl
  rw [ne_eq, Entries.at?_eq_none_iff] at hsome
  push Not at hsome
  obtain ⟨e', he', hkey⟩ := hsome
  rw [← hkey]
  exact hkeys e' he'

/-- The rules that an evaluation is shown with: what stands under the name of a rule in each
outcome. -/
def judgedRules? (shown : Value) : Option Value :=
  match shown.member? "outcomes" with
  | some (.list outcomes) => (outcomes.mapM fun o : Value => o.member? "rule").map .list
  | _ => none

end Value

/-! ## Reading and writing rules -/

namespace Rule

/-- A rule is read from the mapping that it is written to, and from nothing else. -/
lemma read_iff : read v = .accepted r ↔ v.SameMapping r.toValue := by
  rw [read_eq_accepted]
  exact ⟨fun h => .of_isRecordOf h r.isRecordOf_toValue, fun h => h.isRecordOf r.isRecordOf_toValue⟩

/-- Rules are read from the list that they are written to, and from nothing else. -/
theorem readList_iff : readList raw = .accepted rules ↔ raw.SameMappings (listToValue rules) := by
  rw [readList, Check.items_eq_accepted, listToValue]
  simp only [read_iff]
  constructor
  · rintro ⟨items, rfl, h⟩
    exact .list (List.forall₂_map_right_iff.2 h)
  · intro h
    cases h with
    | list h => exact ⟨_, rfl, List.forall₂_map_right_iff.1 h⟩

/-- Rules are read back. -/
lemma readList_listToValue (rules : List Rule) :
    readList (listToValue rules) = .accepted rules := by
  rw [readList, listToValue]
  exact Check.itemsFrom_map (fun r _ => read_toValue r) 0

end Rule

/-! ## Judging again -/

/-- An evaluation is shown with the rules that it judged. -/
lemma Evaluation.judgedRules?_toValue (e : Evaluation) :
    e.toValue.judgedRules? = some (Rule.listToValue (e.outcomes.map (·.rule))) := by
  have houtcomes : e.toValue.member? "outcomes" = some (.list (e.outcomes.map (·.toValue))) := by
    rw [toValue, Value.member?_record]
    rfl
  have hrule (o : Outcome) : o.toValue.member? "rule" = some o.rule.toValue := by
    rw [Outcome.toValue, Value.member?_record]
    rfl
  have hrules (outcomes : List Outcome) :
      ((outcomes.map (·.toValue)).mapM fun v : Value => v.member? "rule")
      = some ((outcomes.map (·.rule)).map (·.toValue)) := by
    induction outcomes with
    | nil => rfl
    | cons o outcomes ih => simp [hrule, ih]
  rw [Value.judgedRules?, houtcomes]
  dsimp only
  rw [hrules, Option.map_some, Rule.listToValue]

namespace Panel

variable {panel : Panel} {now : Instant} {facts : Facts} {requirements : List Requirement}
  {e : Evaluation}

/-- What a panel judges is a rule. -/
lemma eq_rule_of_judge {requirement : Requirement} {o : Outcome}
    (h : panel.judge now facts requirement = .ok o) : requirement = .rule o.rule := by
  cases requirement with
  | rule r => rw [(judge_eq_ok.1 h).1]
  | other v => cases h

/-- An evaluation that comes back has judged rules only, those of its outcomes. -/
lemma evaluate_of_evaluateAll (h : panel.evaluateAll now facts requirements = .ok e) :
    panel.evaluate now facts (e.outcomes.map (·.rule)) = .ok e := by
  obtain ⟨outcomes, hall, rfl⟩ := Except.map_eq_ok.1 h
  have hrules : requirements = (outcomes.map (·.rule)).map .rule := by
    rw [List.mapM_eq_ok] at hall
    clear h
    induction hall with
    | nil => rfl
    | cons hjudge _ ih => rw [eq_rule_of_judge hjudge, ih, List.map_cons, List.map_cons]
  rw [evaluate, ← hrules]
  exact h

/-- Rules keep their shape in every form that they are given.  A list is read as rules exactly if it
is, but for the order of the entries of a mapping, what the rules are written to, and what rules are
written to is read back.  The rules that an evaluation is shown with are read as well, and judged by
the same facts at the same time they give an evaluation that is shown in the same way. -/
theorem evaluateAll_reproduces (panel : Panel) (now : Instant) (facts : Facts) :
    (∀ raw rules, Rule.readList raw = .accepted rules ↔ raw.SameMappings (Rule.listToValue rules))
      ∧ (∀ rules, Rule.readList (Rule.listToValue rules) = .accepted rules)
      ∧ ∀ requirements e, panel.evaluateAll now facts requirements = .ok e →
        ∃ document rules e', e.toValue.judgedRules? = some document
          ∧ Rule.readList document = .accepted rules
          ∧ panel.evaluate now facts rules = .ok e' ∧ e'.toValue = e.toValue :=
  ⟨fun _ _ => Rule.readList_iff, Rule.readList_listToValue, fun _ e h =>
    ⟨_, _, e, e.judgedRules?_toValue, Rule.readList_listToValue _, evaluate_of_evaluateAll h, rfl⟩⟩

end Panel

end Shortlist
