import Shortlist.Proofs.Application
import Shortlist.Proofs.Rule.Description
import Shortlist.Proofs.Screening.Judgeable

/-!
# Verdicts on reduced facts

A record line keeps the facts of an application in a reduced form, in which null stands for NaN and
for the infinities.  For facts that a JSON text can say, nothing else is lost.  A rule on a number
or on a date does not notice: it finds nothing in NaN, and nothing in null.  An equality rule may,
because NaN has a text and null has none.

So the verdicts on the reduced facts are those on the facts themselves, up to those of equality
rules (`Rule.Persists`), and a verdict that is lost can always be seen from the reasons
(`Rule.unmetReasons_plain_iff`).
-/

namespace Shortlist

namespace Value

variable {v : Value}

lemma IsDecoded.number?_plain (h : v.IsDecoded) : v.plain.number? = v.number? := by
  cases h with
  | float x => cases x <;> rfl
  | _ => rfl

lemma IsDecoded.instant?_plain (h : v.IsDecoded) (now : Instant) :
    v.plain.instant? now = v.instant? now := by
  cases h with
  | float x => cases x <;> rfl
  | _ => rfl

/-- The integers that a JSON text can say can be written. -/
lemma IsDecoded.hasShortIntegers (h : v.IsDecoded) : v.HasShortIntegers := by
  induction h with
  | int short => simpa [HasShortIntegers, integers] using short
  | list _ ih => exact hasShortIntegers_list.2 ih
  | mapping _ named _ ih =>
    refine hasShortIntegers_mapping.2 fun e he => ⟨?_, ih e he⟩
    obtain ⟨t, ht⟩ := named e he
    rw [ht]
    simp [HasShortIntegers, ofKey, integers]
  | _ => simp [HasShortIntegers, integers]

end Value

namespace Rule

variable {now : Instant} {facts : Facts} {r : Rule} {rules : List Rule} {q : EqualityRule}

/-- The verdict of a rule is the same on the reduced facts. -/
def Persists (now : Instant) (facts : Facts) (r : Rule) : Prop :=
  r.verdict now facts.plain = r.verdict now facts

/-! ## Verdicts that persist -/

/-- The verdict of a rule on a number persists. -/
lemma persists_numeric (h : facts.IsDecoded) (r : NumericRule) :
    (Rule.numeric r).Persists now facts := by
  rw [Persists, verdict, Facts.get_plain, accepts, NumericRule.accepts, (h _).number?_plain]
  rfl

/-- The verdict of a rule on a date persists. -/
lemma persists_date (h : facts.IsDecoded) (r : DateRule) : (Rule.date r).Persists now facts := by
  rw [Persists, verdict, Facts.get_plain, accepts, DateRule.accepts, (h _).instant?_plain]
  rfl

/-- Of rules on facts that a JSON text can say it is only equality rules whose verdicts may be
lost. -/
lemma persists_of_equality (h : facts.IsDecoded)
    (hequality : ∀ q, .equality q ∈ rules → (Rule.equality q).Persists now facts) :
    ∀ r ∈ rules, r.Persists now facts := by
  intro r hr
  cases r with
  | numeric r => exact persists_numeric h r
  | date r => exact persists_date h r
  | equality q => exact hequality q hr

/-- What could be judged can be judged by the reduced facts. -/
lemma exists_verdict_plain (h : facts.IsDecoded) (hverdict : ∃ b, r.verdict now facts = .ok b) :
    ∃ b, r.verdict now facts.plain = .ok b := by
  cases r with
  | numeric r =>
    rw [persists_numeric h r]
    exact hverdict
  | date r =>
    rw [persists_date h r]
    exact hverdict
  | equality q =>
    rw [verdict, Facts.get_plain]
    exact EqualityRule.exists_accepts.2 (h _).plain.hasShortIntegers

/-! ## Reasons tell equality rules apart -/

/-- A rule that is described like an equality rule asks for the same text in the same fact, so its
verdicts are the same. -/
lemma verdict_eq_of_description (h : r.description = (Rule.equality q).description) :
    r.verdict now facts = (Rule.equality q).verdict now facts := by
  cases description_eq_iff.1 h with
  | equality hfield htext =>
    rw [verdict, accepts, field, EqualityRule.accepts, hfield, htext]
    rfl

/-- An equality rule turns its fact down exactly if its description is among the reasons. -/
lemma verdict_eq_false_iff (hq : .equality q ∈ rules) :
    (Rule.equality q).verdict now facts = .ok false
      ↔ (Rule.equality q).description ∈ unmetReasons now facts rules := by
  simp only [unmetReasons, List.mem_map, List.mem_filter, decide_eq_true_eq]
  constructor
  · intro hverdict
    exact ⟨_, ⟨hq, by rw [hverdict]; rfl⟩, rfl⟩
  · rintro ⟨r, ⟨-, hverdict⟩, hdescription⟩
    rw [verdict_eq_of_description hdescription] at hverdict
    cases hq : (Rule.equality q).verdict now facts with
    | error fault =>
      rw [hq] at hverdict
      cases hverdict
    | ok b =>
      rw [hq] at hverdict
      exact congrArg Except.ok (Option.some.inj hverdict)

/-- The reasons on the reduced facts are those on the facts themselves exactly if every verdict of
an equality rule persists.  No verdict is lost without a trace: the reasons tell which equality
rules turned their fact down. -/
theorem unmetReasons_plain_iff (h : facts.IsDecoded)
    (hjudged : ∀ r ∈ rules, ∃ b, r.verdict now facts = .ok b) :
    unmetReasons now facts.plain rules = unmetReasons now facts rules
      ↔ ∀ q, .equality q ∈ rules → (Rule.equality q).Persists now facts := by
  constructor
  · intro hreasons q hq
    obtain ⟨b, hb⟩ := hjudged _ hq
    obtain ⟨b', hb'⟩ := exists_verdict_plain h ⟨b, hb⟩
    have hsame : (Rule.equality q).verdict now facts.plain = .ok false
        ↔ (Rule.equality q).verdict now facts = .ok false := by
      rw [verdict_eq_false_iff hq, verdict_eq_false_iff hq, hreasons]
    rw [hb, hb', Except.ok.injEq, Except.ok.injEq] at hsame
    have hverdict : b' = b := by
      cases b <;> cases b' <;> simp_all
    rw [Persists, hb, hb', hverdict]
  · intro hequality
    exact unmetReasons_congr (persists_of_equality h hequality)

-- a degree that is NaN has a text, and null has none
example : EqualityRule.accepts ⟨.degree, .word, "NaN"⟩ (.float .nan) = .ok true
    ∧ EqualityRule.accepts ⟨.degree, .word, "NaN"⟩ (Value.plain (.float .nan)) = .ok false := by
  decide +kernel

end Rule

end Shortlist
