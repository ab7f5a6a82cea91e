import Shortlist.Proofs.Text.Lowercase
import Shortlist.Screening.Verdict

/-!
# Letter case in equality rules

An equality rule is meant not to notice letter case: of two facts that are case variants of each
other it should accept both or none.  It does, but for one letter.  Where a word ends with a capital
sigma in one of the facts and with a small sigma in the other one, the capital letter becomes a
final sigma when the fact is lowered and the small letter stays, so a rule that accepts the one fact
turns the other one down (`EqualityRule.ignores_case_iff`).

What a case variant is and when two of them are lowered alike is said of texts in general
(`Text.lower_eq_iff`).  A rule adds that the empty text meets none, and that it may turn down both
of two variants that are lowered differently.
-/

namespace Shortlist

namespace EqualityRule

variable {q : EqualityRule} {s t : Text}

/-- An equality rule comes to a verdict on every text. -/
lemma accepts_text : q.accepts (.text s) = .ok (!s.isEmpty && decide (s.lower = q.text.lower)) := by
  rw [accepts, Value.isBlank]
  cases hempty : s.isEmpty with
  | true => rfl
  | false => rfl

/-- The texts that a rule accepts have the lower-case form of its own text. -/
lemma accepts_text_iff :
    q.accepts (.text s) = .ok true ↔ s.isEmpty = false ∧ s.lower = q.text.lower := by
  rw [accepts_text, Except.ok.injEq, Bool.and_eq_true, Bool.not_eq_true', decide_eq_true_eq]

lemma accepts_text_or : q.accepts (.text s) = .ok true ∨ q.accepts (.text s) = .ok false := by
  rw [accepts_text]
  cases (!s.isEmpty && decide (s.lower = q.text.lower))
  · exact .inr rfl
  · exact .inl rfl

lemma isEmpty_eq_of_isCaseVariant (h : s.IsCaseVariant t) : s.isEmpty = t.isEmpty := by
  have hlength := List.Forall₂.length_eq h
  rw [Bool.eq_iff_iff, Text.isEmpty, Text.isEmpty, List.isEmpty_iff_length_eq_zero,
    List.isEmpty_iff_length_eq_zero, hlength]

/-- Case variants get the same verdict from a rule if they have the same lower-case form, or if the
rule turns both of them down, and in no other case. -/
lemma accepts_eq_iff (h : s.IsCaseVariant t) : q.accepts (.text s) = q.accepts (.text t)
    ↔ s.lower = t.lower ∨ q.accepts (.text s) = .ok false ∧ q.accepts (.text t) = .ok false := by
  constructor
  · intro heq
    rcases accepts_text_or (q := q) (s := s) with hs | hs
    · have ht : q.accepts (.text t) = .ok true := heq ▸ hs
      exact .inl ((accepts_text_iff.1 hs).2.trans (accepts_text_iff.1 ht).2.symm)
    · exact .inr ⟨hs, heq ▸ hs⟩
  · rintro (hlower | ⟨hs, ht⟩)
    · rw [accepts_text, accepts_text, isEmpty_eq_of_isCaseVariant h, hlower]
    · rw [hs, ht]

/-- No rule tells case variants apart exactly if they have the same lower-case form: the rule that
asks for one of them accepts it. -/
lemma forall_accepts_eq_iff (h : s.IsCaseVariant t) :
    (∀ q : EqualityRule, q.accepts (.text s) = q.accepts (.text t)) ↔ s.lower = t.lower := by
  refine ⟨fun hall => ?_, fun hlower q => (accepts_eq_iff h).2 (.inl hlower)⟩
  rcases (accepts_eq_iff h).1 (hall ⟨.degree, .word, s⟩) with hlower | ⟨hs, -⟩
  · exact hlower
  · -- only the empty text is turned down by the rule that asks for it
    have hempty : s.isEmpty = true := by
      rw [accepts_text, decide_eq_true rfl, Bool.and_true, Except.ok.injEq] at hs
      simpa using hs
    have hempty' : t.isEmpty = true := isEmpty_eq_of_isCaseVariant h ▸ hempty
    rw [Text.isEmpty, List.isEmpty_iff] at hempty hempty'
    rw [Text.points_inj.1 (hempty.trans hempty'.symm)]

/-- A rule gives case variants the same verdict if they have capital sigmas in the same places among
those that end a word, or if it turns both of them down, and in no other case.  So no rule at all
tells them apart exactly if the former is true. -/
theorem ignores_case_iff (h : s.IsCaseVariant t) :
    (∀ q : EqualityRule, q.accepts (.text s) = q.accepts (.text t)
      ↔ (∀ n, s.EndsWord n →
          (s.points[n]? = some Text.capitalSigma ↔ t.points[n]? = some Text.capitalSigma))
        ∨ q.accepts (.text s) = .ok false ∧ q.accepts (.text t) = .ok false)
      ∧ ((∀ q : EqualityRule, q.accepts (.text s) = q.accepts (.text t))
        ↔ ∀ n, s.EndsWord n →
          (s.points[n]? = some Text.capitalSigma ↔ t.points[n]? = some Text.capitalSigma)) := by
  rw [← Text.lower_eq_iff h]
  exact ⟨fun q => accepts_eq_iff h, forall_accepts_eq_iff h⟩

/-- The last letter of a Greek word is such a place. -/
theorem ignores_case_iff_street : Text.IsCaseVariant "ΟΔΟΣ" "οδοσ"
    ∧ ¬ ∀ q : EqualityRule, q.accepts (.text "ΟΔΟΣ") = q.accepts (.text "οδοσ") := by
  have hvariant : Text.IsCaseVariant "ΟΔΟΣ" "οδοσ" := by decide +kernel
  have hends : Text.EndsWord "ΟΔΟΣ" 3 := by decide +kernel
  refine ⟨hvariant, fun hall => ?_⟩
  have hsigma := (ignores_case_iff hvariant).2.1 hall 3 hends
  exact absurd (hsigma.1 (by decide +kernel)) (by decide +kernel)

end EqualityRule

end Shortlist
