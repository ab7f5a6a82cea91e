import Shortlist.Screening.Evaluator

/-!
# Evaluations

A candidate is judged by all rules of a vacancy, each on its own, and has to satisfy every one.  An
`Evaluation` holds one `Outcome` for each rule, in the order of the rules.  The reasons for
turning a candidate down are the descriptions of the rules that are not satisfied.

Rules are judged by a `Panel`, a table with an evaluator for every family of rules.  A panel may be
handed a value that is no rule, and then refuses to judge.
-/

namespace Shortlist

/-- The verdicts on all rules, in order. -/
structure Evaluation where
  outcomes : List Outcome

namespace Evaluation

/-- The reasons of the rules that are not satisfied, in order. -/
def reasons (e : Evaluation) : List Text := e.outcomes.filterMap (·.reason?)

/-- Whether every rule is satisfied. -/
def satisfied (e : Evaluation) : Bool := e.outcomes.all (·.satisfied)

/-- The mapping of an evaluation in an answer. -/
def toValue (e : Evaluation) : Value :=
  .record [("satisfied", .bool e.satisfied), ("reasons", .list (e.reasons.map .text)),
    ("outcomes", .list (e.outcomes.map (·.toValue)))]

end Evaluation

/-! ## Panels -/

/-- A table of shipped evaluators in which every family has one. -/
structure Panel where
  table : EvaluatorTable
  shipped : ∀ family evaluator, table family = some evaluator → evaluator = .shipped family
  complete : ∀ family, (table family).isSome

namespace Panel

/-- The table of shipped evaluators that are entered in order has only these. -/
theorem shipped_of_entered (evaluators : List ShippedEvaluator) (family : Family)
    (evaluator : Evaluator family)
    (h : EvaluatorTable.ofList (evaluators.map (·.1)) family = some evaluator) :
    evaluator = .shipped family := by
  obtain ⟨⟨e, hshipped⟩, -, rfl⟩ := List.mem_map.1 (EvaluatorTable.mem_of_ofList h)
  obtain ⟨family', -, heq⟩ := List.mem_map.1 hshipped
  cases heq
  rfl

/-- The panel of the given evaluators, or the families that they leave out. -/
def ofEvaluators (evaluators : List ShippedEvaluator) : Except (List Family) Panel :=
  let table := EvaluatorTable.ofList (evaluators.map (·.1))
  if h : table.missing = [] then
    .ok ⟨table, shipped_of_entered evaluators, EvaluatorTable.missing_eq_nil_iff.1 h⟩
  else .error table.missing

/-- The panel of one evaluator for each family. -/
def standard : Panel :=
  let evaluators := Family.all.map ShippedEvaluator.of
  ⟨.ofList (evaluators.map (·.1)), shipped_of_entered evaluators,
    fun family => by cases family <;> rfl⟩

/-- The message about families of which there is no evaluator. -/
def missingMessage (families : List Family) : String :=
  "No evaluator registered for rule families: ["
    ++ ", ".intercalate (families.map fun f => Text.quoted f.name) ++ "]"

/-- The outcome of one requirement. -/
def judge (panel : Panel) (now : Instant) (facts : Facts) (requirement : Requirement) :
    Except Unjudgeable Outcome :=
  panel.table.judge now facts requirement

/-- The outcomes of all requirements; the first one that cannot be judged ends the evaluation. -/
def evaluateAll (panel : Panel) (now : Instant) (facts : Facts) (requirements : List Requirement) :
    Except Unjudgeable Evaluation :=
  (requirements.mapM (panel.judge now facts)).map .mk

/-- The outcome for a document that was never read as rules: nothing in it is a rule. -/
def evaluateUnread (panel : Panel) (now : Instant) (facts : Facts) (document : Value) :
    Except Unjudgeable Evaluation :=
  match document.parts? with
  | none => .error (.noRules document.fullKindWord)
  | some parts => panel.evaluateAll now facts (parts.map .other)

/-- The outcomes of all rules. -/
def evaluate (panel : Panel) (now : Instant) (facts : Facts) (rules : List Rule) :
    Except Unjudgeable Evaluation :=
  panel.evaluateAll now facts (rules.map .rule)

end Panel

end Shortlist
