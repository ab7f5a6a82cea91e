import Shortlist.Rule.Document
import Shortlist.Screening.Verdict

/-!
# Evaluators

The rules of a family are judged by an evaluator of this family.  Evaluators are entered in a table
by their family, each in the place of an earlier one, and a rule is handed to the evaluator that the
table has for its family.  One evaluator is shipped for each family.
-/

namespace Shortlist

/-- The verdict on one rule, with the fact that was looked at. -/
structure Outcome where
  rule : Rule
  fact : Value
  satisfied : Bool

namespace Outcome

/-- The description of a rule that is not satisfied. -/
def reason? (o : Outcome) : Option Text := if o.satisfied then none else some o.rule.description

/-- The mapping of an outcome in an answer. -/
def toValue (o : Outcome) : Value :=
  .record [("rule", o.rule.toValue), ("satisfied", .bool o.satisfied),
    ("reason", .ofText? o.reason?)]

end Outcome

/-! ## Evaluators of a family -/

/-- What judges the rules of a family: it gives the outcome of a rule by the facts at a time. -/
structure Evaluator (family : Family) where
  evaluate : Instant → family.Condition → Facts → Except Unjudgeable Outcome

namespace Evaluator

/-- Compares a number with the threshold of a rule. -/
def numeric : Evaluator .numeric where
  evaluate _ (rule : NumericRule) facts :=
    let fact := facts.get rule.field.fact
    .ok ⟨.numeric rule, fact, rule.accepts fact⟩

/-- Compares a date with the date of a rule. -/
def date : Evaluator .date where
  evaluate now (rule : DateRule) facts :=
    let fact := facts.get .graduationDate
    (rule.accepts now fact).map fun satisfied => ⟨.date rule, fact, satisfied⟩

/-- Compares a text with the text of a rule. -/
def equality : Evaluator .equality where
  evaluate _ (rule : EqualityRule) facts :=
    let fact := facts.get rule.field.fact
    (rule.accepts fact).map fun satisfied => ⟨.equality rule, fact, satisfied⟩

/-- The evaluator that is shipped for a family. -/
def shipped : (family : Family) → Evaluator family
  | .numeric => numeric
  | .date => date
  | .equality => equality

end Evaluator

/-- An evaluator, with the family that it is for. -/
structure FamilyEvaluator where
  family : Family
  evaluator : Evaluator family

namespace FamilyEvaluator

/-- The evaluator as one of the given family, if it is for that. -/
def for? (e : FamilyEvaluator) (family : Family) : Option (Evaluator family) :=
  if h : e.family = family then some (h ▸ e.evaluator) else none

/-- The shipped evaluators. -/
def shipped : List FamilyEvaluator := Family.all.map fun family => ⟨family, .shipped family⟩

theorem for?_eq_some {e : FamilyEvaluator} {family : Family} {evaluator : Evaluator family} :
    e.for? family = some evaluator ↔ e = ⟨family, evaluator⟩ := by
  obtain ⟨own, evaluator'⟩ := e
  by_cases h : own = family
  · subst h
    simp [for?]
  · simp [for?, h]

end FamilyEvaluator

/-- One of the shipped evaluators. -/
abbrev ShippedEvaluator := { e : FamilyEvaluator // e ∈ FamilyEvaluator.shipped }

/-- The shipped evaluator of a family. -/
def ShippedEvaluator.of (family : Family) : ShippedEvaluator :=
  ⟨⟨family, .shipped family⟩, List.mem_map_of_mem (by cases family <;> decide)⟩

/-! ## Tables -/

/-- A table of evaluators by the families that they are for. -/
def EvaluatorTable := (family : Family) → Option (Evaluator family)

/-- What a panel is asked to judge by: a rule, or a value that is none. -/
inductive Requirement where
  | rule (rule : Rule)
  | other (value : Value)

namespace EvaluatorTable

/-- The table with another evaluator, which takes the place of an earlier one for its family. -/
def enter (table : EvaluatorTable) (e : FamilyEvaluator) : EvaluatorTable := fun family =>
  (e.for? family).or (table family)

/-- The table of evaluators that are entered in order. -/
def ofList (evaluators : List FamilyEvaluator) : EvaluatorTable :=
  evaluators.foldl enter fun _ => none

/-- The families of which a table has no evaluator, in the order of all families. -/
def missing (table : EvaluatorTable) : List Family :=
  Family.all.filter fun family => (table family).isNone

/-- The outcome of a requirement: that of the evaluator for the family of the rule. -/
def judge (table : EvaluatorTable) (now : Instant) (facts : Facts) (requirement : Requirement) :
    Except Unjudgeable Outcome :=
  match requirement with
  | .other v => .error (.noRule v.kindWord)
  | .rule rule =>
    match table rule.family with
    | none => .error (.noEvaluator rule.family)
    | some e => e.evaluate now rule.condition facts

/-- The table has for a family the last evaluator that was entered for it. -/
theorem ofList_eq (evaluators : List FamilyEvaluator) (family : Family) :
    ofList evaluators family = (evaluators.filterMap (·.for? family)).getLast? := by
  -- an entry that nothing takes the place of is the one that was there before
  have hfold (table : EvaluatorTable) : evaluators.foldl enter table family
      = (evaluators.filterMap (·.for? family)).getLast?.or (table family) := by
    induction evaluators generalizing table with
    | nil => rfl
    | cons e rest ih =>
      rw [List.foldl_cons, ih]
      cases h : e.for? family with
      | none => simp [enter, h]
      | some evaluator => simp [enter, h, List.getLast?_cons]
  exact (hfold fun _ => none).trans Option.or_none

/-- What a table has was entered in it. -/
theorem mem_of_ofList {evaluators : List FamilyEvaluator} {family : Family}
    {evaluator : Evaluator family} (h : ofList evaluators family = some evaluator) :
    ⟨family, evaluator⟩ ∈ evaluators := by
  rw [ofList_eq] at h
  obtain ⟨e, he, hfor⟩ := List.mem_filterMap.1 (List.mem_of_getLast? h)
  exact FamilyEvaluator.for?_eq_some.1 hfor ▸ he

theorem missing_eq_nil_iff {table : EvaluatorTable} :
    table.missing = [] ↔ ∀ family, (table family).isSome := by
  have hall (family : Family) : family ∈ Family.all := by cases family <;> decide
  simp [missing, hall, Option.isSome_iff_ne_none]

end EvaluatorTable

end Shortlist
