import Mathlib.Order.Basic
import Shortlist.Proofs.Number.Value
import Shortlist.Proofs.Rule.Document
import Shortlist.Proofs.Screening.Evaluation

/-!
# Bounds and the order behind them

A rule with a bound places its fact in an order, if the fact has a place there, and compares that
place with the place of the bound.  `Comparison.FollowsOrder` says all that is to be expected of the
five comparisons: the verdicts are those of the order, exactly one of below, equal and above holds,
the other two are negations, and verdicts are monotone in the place and depend on nothing else.
`Comparison.followsOrder` derives all of it from the first of these.

For a numeric rule the order is that of the rational numbers (`NumericRule.accepts_exactly`).  A
fact has a place in it if it is an integer of any size or a finite double, and nothing is rounded;
neither a boolean nor an infinity has one.
-/

namespace Shortlist

namespace Comparison

/-! ## Comparisons in an order -/

/-- Whether two members of an order stand in a comparison. -/
def Relates {β : Type} [LE β] [LT β] (c : Comparison) (a b : β) : Prop :=
  match c with
  | .atLeast => b ≤ a
  | .atMost => a ≤ b
  | .above => b < a
  | .below => a < b
  | .equal => a = b

lemma holds_iff (c : Comparison) (a b : Int) : c.holds a b = true ↔ c.Relates a b := by
  cases c <;> simp [holds, Relates]

variable {α β ε : Type} [LinearOrder β] {verdict : Comparison → α → Except ε Bool}
  {place : α → β → Prop} {bound : β}

/-- Every lower bound that the first fact meets is met by the second one, and every upper bound that
the second one meets is met by the first. -/
structure Precedes (verdict : Comparison → α → Except ε Bool) (a a' : α) : Prop where
  atLeast : verdict .atLeast a = .ok true → verdict .atLeast a' = .ok true
  above : verdict .above a = .ok true → verdict .above a' = .ok true
  atMost : verdict .atMost a' = .ok true → verdict .atMost a = .ok true
  below : verdict .below a' = .ok true → verdict .below a = .ok true

/-- The verdicts on facts that have a place in an order are those of comparing it with the place of
the bound. -/
structure FollowsOrder (verdict : Comparison → α → Except ε Bool) (place : α → β → Prop)
    (bound : β) : Prop where
  accepts_iff : ∀ a b, place a b → ∀ c, verdict c a = .ok true ↔ c.Relates b bound
  rejects_iff : ∀ a b, place a b → ∀ c, verdict c a = .ok false ↔ ¬c.Relates b bound
  exactly_one : ∀ a b, place a b → ∃! c, c ∈ [below, equal, above] ∧ verdict c a = .ok true
  atLeast_iff : ∀ a b, place a b → (verdict .atLeast a = .ok true ↔ verdict .below a = .ok false)
  atMost_iff : ∀ a b, place a b → (verdict .atMost a = .ok true ↔ verdict .above a = .ok false)
  alike : ∀ a a' b, place a b → place a' b → ∀ c, verdict c a = verdict c a'
  precedes : ∀ a a' b b', place a b → place a' b' → b ≤ b' → Precedes verdict a a'

/-- Of below, equal and above, one holds between two members of an order, and no other. -/
lemma existsUnique_relates (a b : β) : ∃! c, c ∈ [below, equal, above] ∧ c.Relates a b := by
  rcases lt_trichotomy a b with hlt | heq | hgt
  · refine ⟨.below, ⟨by simp, hlt⟩, ?_⟩
    rintro c ⟨hc, hrelates⟩
    cases c with
    | below => rfl
    | equal => exact absurd hrelates hlt.ne
    | above => exact absurd hrelates hlt.not_gt
    | _ => simp at hc
  · refine ⟨.equal, ⟨by simp, heq⟩, ?_⟩
    rintro c ⟨hc, hrelates⟩
    cases c with
    | equal => rfl
    | below => exact absurd hrelates heq.not_lt
    | above => exact absurd hrelates heq.not_gt
    | _ => simp at hc
  · refine ⟨.above, ⟨by simp, hgt⟩, ?_⟩
    rintro c ⟨hc, hrelates⟩
    cases c with
    | above => rfl
    | below => exact absurd hrelates hgt.not_gt
    | equal => exact absurd hrelates hgt.ne'
    | _ => simp at hc

/-- Verdicts follow an order if every fact with a place gets the verdict of comparing its place. -/
theorem followsOrder (h : ∀ a b, place a b → ∀ c, ∃ v, verdict c a = .ok v
    ∧ (v = true ↔ c.Relates b bound)) : FollowsOrder verdict place bound := by
  have haccepts : ∀ a b, place a b → ∀ c, verdict c a = .ok true ↔ c.Relates b bound := by
    intro a b hab c
    obtain ⟨v, hv, hiff⟩ := h a b hab c
    rw [hv, ← hiff, Except.ok.injEq]
  have hrejects : ∀ a b, place a b → ∀ c, verdict c a = .ok false ↔ ¬c.Relates b bound := by
    intro a b hab c
    obtain ⟨v, hv, hiff⟩ := h a b hab c
    rw [hv, ← hiff, Except.ok.injEq, Bool.not_eq_true]
  refine ⟨haccepts, hrejects, ?_, ?_, ?_, ?_, ?_⟩
  · intro a b hab
    simp only [haccepts a b hab]
    exact existsUnique_relates b bound
  · intro a b hab
    rw [haccepts a b hab, hrejects a b hab]
    exact not_lt.symm
  · intro a b hab
    rw [haccepts a b hab, hrejects a b hab]
    exact not_lt.symm
  · intro a a' b hab hab' c
    obtain ⟨v, hv, hiff⟩ := h a b hab c
    obtain ⟨v', hv', hiff'⟩ := h a' b hab' c
    rw [hv, hv', Bool.eq_iff_iff.2 (hiff.trans hiff'.symm)]
  · intro a a' b b' hab hab' hle
    refine ⟨?_, ?_, ?_, ?_⟩
    all_goals rw [haccepts a b hab, haccepts a' b' hab']
    · exact fun hbound => le_trans hbound hle
    · exact fun hbound => lt_of_lt_of_le hbound hle
    · exact fun hbound => le_trans hle hbound
    · exact fun hbound => lt_of_le_of_lt hle hbound

end Comparison

/-! ## Numbers -/

lemma Number.relates_value_iff {m n : Number} (c : Comparison) :
    c.Relates m.value n.value ↔ c.Relates m.scaled n.scaled := by
  cases c with
  | atLeast => exact Number.value_le_iff
  | atMost => exact Number.value_le_iff
  | above => exact Number.value_lt_iff
  | below => exact Number.value_lt_iff
  | equal => exact Number.value_eq_iff

/-- The rational number that a value denotes: an integer of any size, which is no boolean, denotes
itself, and a finite double its exact value. -/
inductive Value.Denotes : Value → ℚ → Prop where
  | int (n : Int) : Denotes (.int n) n
  | double (x : FiniteDouble) : Denotes (.float (.finite x)) x.value

lemma Value.denotes_iff {v : Value} {q : ℚ} :
    v.Denotes q ↔ ∃ n, v.number? = some n ∧ n.value = q := by
  constructor
  · intro h
    cases h with
    | int n => exact ⟨.int n, rfl, rfl⟩
    | double x => exact ⟨.double x, rfl, rfl⟩
  · rintro ⟨n, hnumber, rfl⟩
    rw [Value.number?_eq_some.1 hnumber]
    cases n with
    | int i => exact .int i
    | double x => exact .double x

namespace NumericRule

variable {rule : NumericRule} {fact : Value} {q : ℚ}

/-- The rule with the same bound and another comparison. -/
def withComparison (rule : NumericRule) (c : Comparison) : NumericRule :=
  { rule with comparison := c }

lemma accepts_iff_of_denotes (h : fact.Denotes q) :
    rule.accepts fact = true ↔ rule.comparison.Relates q rule.threshold.value := by
  obtain ⟨n, hnumber, rfl⟩ := Value.denotes_iff.1 h
  rw [accepts, hnumber, Number.relates_value_iff]
  exact rule.comparison.holds_iff n.scaled rule.threshold.scaled

lemma accepts_of_not_denotes (h : ∀ q, ¬fact.Denotes q) : rule.accepts fact = false := by
  have hnumber : fact.number? = none := by
    by_contra hsome
    obtain ⟨n, hn⟩ := Option.ne_none_iff_exists'.1 hsome
    exact h n.value (Value.denotes_iff.2 ⟨n, hn, rfl⟩)
  rw [accepts, hnumber]

lemma accepts_iff : rule.accepts fact = true
    ↔ ∃ q, fact.Denotes q ∧ rule.comparison.Relates q rule.threshold.value := by
  constructor
  · intro haccepts
    by_contra hnone
    have hnumber : ∃ q, fact.Denotes q := by
      by_contra hno
      rw [accepts_of_not_denotes (not_exists.1 hno)] at haccepts
      cases haccepts
    obtain ⟨q, hq⟩ := hnumber
    exact hnone ⟨q, hq, (accepts_iff_of_denotes hq).1 haccepts⟩
  · rintro ⟨q, hq, hrelates⟩
    exact (accepts_iff_of_denotes hq).2 hrelates

/-- Numbers are compared exactly.  A rule is satisfied if and only if its fact denotes a rational
number that stands in the comparison to what the threshold is worth.  For numbers the five
comparisons with a threshold are those of the order of the rational numbers, whatever integers and
doubles are mixed, and a fact that is no number meets none of them. -/
theorem accepts_exactly (now : Instant) (rule : NumericRule) :
    (∀ (panel : Panel) (facts : Facts), ∃ e, panel.evaluate now facts [.numeric rule] = .ok e
        ∧ (e.satisfied = true ↔ ∃ q, (facts.get rule.field.fact).Denotes q
          ∧ rule.comparison.Relates q rule.threshold.value))
      ∧ Comparison.FollowsOrder
        (fun c fact => (Rule.numeric (rule.withComparison c)).accepts now fact)
        Value.Denotes rule.threshold.value
      ∧ ∀ fact : Value, (∀ q, ¬fact.Denotes q) → ∀ c,
        (Rule.numeric (rule.withComparison c)).accepts now fact = .ok false := by
  refine ⟨fun panel facts => ?_, ?_, fun fact hfact c => ?_⟩
  · have hverdict : (Rule.numeric rule).verdict now facts
        = .ok (rule.accepts (facts.get rule.field.fact)) := rfl
    refine ⟨_, panel.evaluate_singleton hverdict, ?_⟩
    rw [Evaluation.satisfied_singleton]
    exact accepts_iff
  · refine Comparison.followsOrder fun fact q hq c =>
      ⟨(rule.withComparison c).accepts fact, rfl, ?_⟩
    exact accepts_iff_of_denotes hq
  · exact congrArg Except.ok (accepts_of_not_denotes hfact)

end NumericRule

end Shortlist
