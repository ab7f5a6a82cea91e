import Shortlist.Proofs.Store.Record
import Shortlist.Proofs.Value.Extent

/-!
# Which records have a line

A vacancy has a line unless it holds a surrogate (`Vacancy.lineFault?_eq_none`).  An application
with facts that a JSON text can say has one unless it holds a surrogate or one of the facts is too
deep (`Application.lineFault?_eq_none`).

Both come from a count of levels.  A fact may go to a certain depth (`Facts.IsShallow`); the mapping
of the facts, the documents and the record around it each take one level more, which is always
there.  A vacancy never goes as deep as that, so only its texts matter.
-/

namespace Shortlist

/-! ## Facts -/

/-- No fact is too deep for a record. -/
def Facts.IsShallow (facts : Facts) : Prop :=
  ∀ field, (facts.get field).depth ≤ Value.depthLimit

/-- Facts are deep by the deepest of them. -/
lemma Facts.depth_toValue_le {facts : Facts} :
    facts.toValue.depth ≤ Facts.levels ↔ facts.IsShallow := by
  rw [toValue, levels, Value.depth_record_le, List.forall_mem_map, IsShallow]
  constructor
  · intro h field
    exact h field (by cases field <;> decide)
  · exact fun h field _ => h field

/-! ## Vacancies -/

lemma Rule.depth_toValue_le (r : Rule) : r.toValue.depth ≤ 2 := by
  have hoperand : r.operand.depth = 1 := by
    obtain ⟨r⟩ | ⟨r⟩ | ⟨r⟩ := r
    · obtain ⟨field, comparison, threshold, hfits⟩ := r
      cases threshold <;> rfl
    · rfl
    · rfl
  rw [toValue_eq, ← ruleRecord_eq, ruleRecord, Value.depth_record_le]
  intro f hf
  simp only [List.mem_cons, List.not_mem_nil, or_false] at hf
  rcases hf with rfl | rfl | rfl
  · exact le_refl 1
  · exact le_refl 1
  · exact hoperand.le

/-- No vacancy is too deep. -/
lemma Vacancy.depth_toValue_le (v : Vacancy) : v.toValue.depth ≤ Vacancy.levels := by
  have hrules : (Rule.listToValue v.requirements).depth ≤ 3 := by
    rw [Rule.listToValue, Value.depth_list_le]
    intro w hw
    obtain ⟨r, -, rfl⟩ := List.mem_map.1 hw
    exact r.depth_toValue_le
  have hfields : v.toValue.depth ≤ 3 + 1 := by
    rw [toValue, Value.depth_record_le]
    intro f hf
    simp only [List.mem_cons, List.not_mem_nil, or_false] at hf
    rcases hf with rfl | rfl | rfl | rfl | rfl | rfl
    on_goal 4 => exact hrules
    all_goals exact Nat.succ_le_succ (Nat.zero_le 2)
  exact hfields.trans (by decide)

/-- A vacancy has a line unless it holds a surrogate. -/
theorem Vacancy.lineFault?_eq_none (v : Vacancy) :
    Record.lineFault? v = none ↔ v.toValue.IsEncodable := by
  have hfault : Record.lineFault? v = v.toValue.plainFault? true Vacancy.levels := rfl
  rw [hfault, Value.plainFault?_eq_none_iff v.isDecoded_toValue]
  exact and_iff_right v.depth_toValue_le

/-! ## Applications -/

namespace Documents

lemma depth_addressValue (a : Option WebAddress) : (addressValue a).depth = 1 :=
  Value.depth_ofText? _

/-- Evidence is deep by its facts. -/
lemma depth_toValue_le {d : Documents} :
    d.toValue.depth ≤ Documents.levels ↔ (d.facts.getD .none).IsShallow := by
  have hfacts : (factsValue d.facts).depth ≤ Facts.levels ↔ (d.facts.getD .none).IsShallow := by
    cases d.facts with
    | none =>
      have hnull : Facts.none.IsShallow := by
        intro field
        cases field <;> decide
      exact iff_of_true (by decide) hnull
    | some facts => exact Facts.depth_toValue_le
  have hdepth : d.toValue.depth ≤ Facts.levels + 1 ↔ ∀ f ∈ d.fields, f.2.depth ≤ Facts.levels := by
    rw [toValue_eq]
    exact Value.depth_record_le
  rw [levels, hdepth, ← hfacts, fields]
  simp only [List.forall_mem_cons, depth_addressValue, List.not_mem_nil, false_implies,
    implies_true, and_true]
  have hone : 1 ≤ Facts.levels := by decide
  simp only [hone, true_and]

end Documents

namespace Application

variable {a : Application}

/-- An application is deep by its facts. -/
lemma depth_toValue_le : a.toValue.depth ≤ Application.levels ↔ a.facts.IsShallow := by
  have hdepth : a.toValue.depth ≤ Documents.levels + 1
      ↔ ∀ f ∈ a.fields, f.2.depth ≤ Documents.levels := by
    rw [toValue_eq]
    exact Value.depth_record_le
  have htext (t : Text) : (Value.text t).depth = 1 := rfl
  rw [levels, hdepth, fields]
  simp only [List.forall_mem_cons, Documents.depth_toValue_le, Value.depth_ofText?, htext,
    List.not_mem_nil, false_implies, implies_true, and_true]
  have hone : 1 ≤ Documents.levels := by decide
  simp only [hone, true_and, and_true]
  rfl

/-- An application whose facts JSON can say has a line unless one of them is too deep, or it holds a
surrogate. -/
theorem lineFault?_eq_none (h : a.documents.HasDecodedFacts) :
    Record.lineFault? a = none ↔ a.facts.IsShallow ∧ a.toValue.IsEncodable := by
  have hfault : Record.lineFault? a = a.toValue.plainFault? true Application.levels := rfl
  rw [hfault, Value.plainFault?_eq_none_iff (isDecoded_toValue h), depth_toValue_le]

end Application

end Shortlist
