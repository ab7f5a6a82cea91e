import Shortlist.Proofs.Number.Digits
import Shortlist.Proofs.Schema.Check
import Shortlist.Proofs.Value.Plain
import Shortlist.Rule.Document

/-!
# Rules read back

A rule is read from a mapping exactly if the mapping has the members that the rule is written with,
in any order, and no others (`Rule.read_eq_accepted`).  So it is read back from the mapping in which
it is written (`Rule.read_toValue`), whatever its family, and that mapping is one that a JSON text
can say.

Each member is read from the value that is written for it and from no other value; the equivalences
for members are put together for each family.
-/

namespace Shortlist

variable {v : Value} {es : Entries}

/-! ## Names -/

lemma FactField.name_injective : Function.Injective FactField.name := by
  intro f g h
  cases f <;> cases g <;> first | rfl | simp [FactField.name] at h

lemma NumericField.name_injective : Function.Injective fun f : NumericField => f.fact.name := by
  intro f g h
  cases f <;> cases g <;> first | rfl | cases FactField.name_injective h

lemma TextField.name_injective : Function.Injective fun f : TextField => f.fact.name := by
  intro f g h
  cases f <;> cases g <;> first | rfl | cases FactField.name_injective h

lemma Comparison.symbol_injective : Function.Injective Comparison.symbol := by
  intro c d h
  have hsymbol := congrArg Comparison.ofSymbol? h
  simpa only [Comparison.ofSymbol?_symbol, Option.some.injEq] using hsymbol

lemma EqualitySign.text_injective : Function.Injective EqualitySign.text := by
  intro s s' h
  cases s <;> cases s' <;> first | rfl | simp [EqualitySign.text] at h

lemma NumericField.mem_all (f : NumericField) : f ∈ [NumericField.gpa, .age] := by
  cases f <;> decide

lemma TextField.mem_all (f : TextField) : f ∈ [TextField.degree, .institution] := by
  cases f <;> decide

lemma Comparison.mem_all (c : Comparison) : c ∈ Comparison.all := by
  cases c <;> decide

lemma EqualitySign.mem_all (s : EqualitySign) : s ∈ [EqualitySign.word, .symbol] := by
  cases s <;> decide

lemma Comparison.read_eq_accepted {c : Comparison} :
    Comparison.read v = .accepted c ↔ v = .text c.symbol := by
  rw [Comparison.read, Check.oneOf_map_eq_accepted Comparison.symbol_injective]
  exact and_iff_right c.mem_all

lemma EqualitySign.read_eq_accepted {s : EqualitySign} :
    EqualitySign.read v = .accepted s ↔ v = .text s.text := by
  rw [EqualitySign.read, Check.oneOf_map_eq_accepted EqualitySign.text_injective]
  exact and_iff_right s.mem_all

/-! ## Thresholds -/

lemma Value.number?_eq_some {n : Number} : v.number? = some n ↔ v = n.toValue := by
  constructor
  · intro h
    cases v with
    | int i =>
      cases h
      rfl
    | float x =>
      cases x with
      | finite x =>
        cases h
        rfl
      | infinite _ | nan => cases h
    | _ => cases h
  · rintro rfl
    cases n <;> rfl

/-- A threshold is read from the number that it is, so no integer is taken for a double. -/
lemma NumericRule.readThreshold_eq_accepted {t : NumericRule.Threshold} :
    NumericRule.readThreshold v = .accepted t ↔ v = t.1.toValue := by
  have hread (n : Number) (hv : v.number? = some n) : readThreshold v
      = if h : n.fitsDouble = true then .accepted ⟨n, h⟩ else Check.issue .notFinite := by
    rw [Value.number?_eq_some.1 hv]
    cases n <;> rfl
  -- a value is read as a threshold only if it is a number, and then as this one
  cases hv : v.number? with
  | none =>
    have hother : v ≠ t.1.toValue := by
      intro h
      rw [Value.number?_eq_some.2 h] at hv
      cases hv
    refine iff_of_false ?_ hother
    unfold readThreshold
    split <;> simp_all [Check.issue]
  | some n =>
    rw [hread n hv]
    constructor
    · intro h
      split at h
      · cases h
        exact Value.number?_eq_some.1 hv
      · cases h
    · intro h
      rw [Value.number?_eq_some.2 h] at hv
      cases hv
      exact dif_pos t.2

/-- A date is read from its text, if the text stands for a moment. -/
lemma DateRule.readThreshold_eq_accepted {t : DateRule.Threshold} :
    DateRule.readThreshold v = .accepted t ↔ v = .text t.1.1 := by
  obtain ⟨⟨s, moment⟩, hreads⟩ := t
  rw [readThreshold, Check.andThen_eq_accepted]
  simp only [Check.exactText_eq_accepted]
  constructor
  · rintro ⟨t, rfl, h⟩
    cases hs : t.string? with
    | none => simp [hs, Check.issue] at h
    | some s' =>
      simp only [hs] at h
      split at h
      · cases h
        rw [Text.eq_ofString hs]
      · cases h
      · cases h
  · rintro rfl
    refine ⟨_, rfl, ?_⟩
    simp only [Text.string?_ofString]
    split
    · rename_i moment' heq
      rw [hreads] at heq
      cases heq
      rfl
    · rename_i heq
      rw [hreads] at heq
      cases heq
    · rename_i heq
      rw [hreads] at heq
      cases heq

/-! ## Members -/

/-- The members of a rule. -/
def ruleFields (field : FactField) (operator : String) (value : Value) : List (String × Value) :=
  [("field", .text field.name), ("operator", .text operator), ("value", value)]

/-- The entries of the mapping of a rule. -/
def ruleEntries (field : FactField) (operator : String) (value : Value) : Entries :=
  (ruleFields field operator value).map fun f => (.name f.1, f.2)

lemma ruleRecord_eq (field : FactField) (operator : String) (value : Value) :
    ruleRecord field operator value = .mapping (ruleEntries field operator value) := rfl

/-- The members under their names. -/
lemma forall_mem_ruleFields {field : FactField} {operator : String} {value : Value} :
    (∀ f ∈ ruleFields field operator value, es.get? f.1 = some f.2)
      ↔ es.get? "field" = some (.text field.name) ∧ es.get? "operator" = some (.text operator)
        ∧ es.get? "value" = some value := by
  simp [ruleFields]

lemma isRecordOf_ruleEntries (field : FactField) (operator : String) (value : Value) :
    (Value.mapping (ruleEntries field operator value)).IsRecordOf
      (ruleFields field operator value) := by
  refine ⟨_, rfl, forall_mem_ruleFields.2 ?_, fun e he => ?_⟩
  · simp only [ruleEntries, Entries.get?_map]
    exact ⟨rfl, rfl, rfl⟩
  · obtain ⟨f, hf, rfl⟩ := List.mem_map.1 he
    exact ⟨f, hf, rfl⟩

lemma NumericRule.readMembers_eq_accepted {r : NumericRule} :
    readMembers es = .accepted r
      ↔ ∀ f ∈ ruleFields r.field.fact r.comparison.symbol r.threshold.toValue,
        es.get? f.1 = some f.2 := by
  rw [readMembers, Check.seq₃_eq_accepted, forall_mem_ruleFields]
  simp only [Check.required_eq_accepted, Check.oneOf_map_eq_accepted NumericField.name_injective,
    Comparison.read_eq_accepted, readThreshold_eq_accepted, exists_eq_right]
  constructor
  · rintro ⟨field, comparison, threshold, ⟨_, hfield, -, rfl⟩, hoperator, hvalue, rfl⟩
    exact ⟨hfield, hoperator, hvalue⟩
  · rintro ⟨hfield, hoperator, hvalue⟩
    exact ⟨r.field, r.comparison, ⟨r.threshold, r.threshold_fits⟩,
      ⟨_, hfield, r.field.mem_all, rfl⟩,
      hoperator, hvalue, rfl⟩

lemma DateRule.readMembers_eq_accepted {r : DateRule} :
    readMembers es = .accepted r
      ↔ ∀ f ∈ ruleFields .graduationDate r.comparison.symbol (.text r.text),
        es.get? f.1 = some f.2 := by
  have hfield (v : Value) (u : Unit) :
      Check.oneOf [(FactField.graduationDate.name, ())] v = .accepted u
      ↔ v = .text FactField.graduationDate.name := by
    have hunit : Function.Injective fun _ : Unit => FactField.graduationDate.name :=
      fun _ _ _ => rfl
    exact (Check.oneOf_map_eq_accepted hunit).trans (and_iff_right (List.mem_singleton_self u))
  rw [readMembers, Check.seq₃_eq_accepted, forall_mem_ruleFields]
  simp only [Check.required_eq_accepted, hfield, Comparison.read_eq_accepted,
    readThreshold_eq_accepted, exists_eq_right]
  constructor
  · rintro ⟨_, comparison, threshold, hfield, hoperator, hvalue, rfl⟩
    exact ⟨hfield, hoperator, hvalue⟩
  · rintro ⟨hfield, hoperator, hvalue⟩
    exact ⟨(), r.comparison, ⟨(r.text, r.moment), r.text_reads⟩, hfield, hoperator, hvalue, rfl⟩

lemma EqualityRule.readMembers_eq_accepted {r : EqualityRule} :
    readMembers es = .accepted r
      ↔ ∀ f ∈ ruleFields r.field.fact r.sign.text (.text r.text), es.get? f.1 = some f.2 := by
  rw [readMembers, Check.seq₃_eq_accepted, forall_mem_ruleFields]
  simp only [Check.required_eq_accepted, Check.oneOf_map_eq_accepted TextField.name_injective,
    EqualitySign.read_eq_accepted, Check.exactText_eq_accepted, exists_eq_right]
  constructor
  · rintro ⟨field, sign, text, ⟨_, hfield, -, rfl⟩, hoperator, hvalue, rfl⟩
    exact ⟨hfield, hoperator, hvalue⟩
  · rintro ⟨hfield, hoperator, hvalue⟩
    exact ⟨r.field, r.sign, r.text, ⟨_, hfield, r.field.mem_all, rfl⟩, hoperator, hvalue, rfl⟩

namespace Rule

/-- The value that a rule compares with. -/
def operand : Rule → Value
  | .numeric r => r.threshold.toValue
  | .date r => .text r.text
  | .equality r => .text r.text

/-- The members of a rule. -/
def members (r : Rule) : List (String × Value) := ruleFields r.field r.operatorText r.operand

lemma toValue_eq (r : Rule) :
    r.toValue = .mapping (ruleEntries r.field r.operatorText r.operand) := by
  cases r <;> rfl

lemma tag?_field (r : Rule) : tag? (.text r.field.name) = some (r.field, r.family) := by
  cases r with
  | numeric r => cases h : r.field <;> simp [field, h, NumericField.fact, family] <;> rfl
  | date r =>
    simp only [field, family]
    rfl
  | equality r => cases h : r.field <;> simp [field, h, TextField.fact, family] <;> rfl

lemma readMembers_eq_accepted {family : Family} {r : Rule} :
    readMembers family es = .accepted r
      ↔ r.family = family ∧ (Value.mapping es).IsRecordOf r.members := by
  have hnumeric (r : NumericRule) : Check.closed es ruleMembers (NumericRule.readMembers es)
      = .accepted r ↔ (Value.mapping es).IsRecordOf (members (.numeric r)) :=
    Check.closed_eq_accepted_iff rfl NumericRule.readMembers_eq_accepted
  have hdate (r : DateRule) : Check.closed es ruleMembers (DateRule.readMembers es)
      = .accepted r ↔ (Value.mapping es).IsRecordOf (members (.date r)) :=
    Check.closed_eq_accepted_iff rfl DateRule.readMembers_eq_accepted
  have hequality (r : EqualityRule) : Check.closed es ruleMembers (EqualityRule.readMembers es)
      = .accepted r ↔ (Value.mapping es).IsRecordOf (members (.equality r)) :=
    Check.closed_eq_accepted_iff rfl EqualityRule.readMembers_eq_accepted
  -- a family reads rules of its own only
  cases family <;> cases r <;>
    simp [readMembers, Check.map_eq_accepted, hnumeric, hdate, hequality, Rule.family]

/-- A rule is read from the mapping of its members, in any order, and from nothing else. -/
theorem read_eq_accepted {r : Rule} : read v = .accepted r ↔ v.IsRecordOf r.members := by
  have hfield (es : Entries) (h : (Value.mapping es).IsRecordOf r.members) :
      es.get? "field" = some (.text r.field.name) := by
    obtain ⟨_, heq, hmembers, -⟩ := h
    cases heq
    exact (forall_mem_ruleFields.1 hmembers).1
  rw [read, Check.andThen_eq_accepted]
  simp only [Check.entries_eq_accepted]
  constructor
  · rintro ⟨es, rfl, h⟩
    split at h
    · cases h
    · split at h
      · rw [Check.under_eq_accepted, readMembers_eq_accepted] at h
        exact h.2
      · cases h
  · intro h
    obtain ⟨es, rfl, hmembers⟩ := id h
    refine ⟨es, rfl, ?_⟩
    simp only [hfield es h, tag?_field, Check.under_eq_accepted, readMembers_eq_accepted]
    exact ⟨trivial, h⟩

/-- A rule is written to the mapping of its members. -/
lemma isRecordOf_toValue (r : Rule) : r.toValue.IsRecordOf r.members := by
  rw [toValue_eq]
  exact isRecordOf_ruleEntries r.field r.operatorText r.operand

/-- A rule is read back. -/
theorem read_toValue (r : Rule) : read r.toValue = .accepted r :=
  read_eq_accepted.2 r.isRecordOf_toValue

end Rule

/-! ## What a rule is written as -/

lemma Number.fitsDouble_int {n : Int} :
    (Number.int n).fitsDouble = true ↔ n.natAbs < 2 ^ 1024 - 2 ^ 970 := by
  rw [Number.fitsDouble, decide_eq_true_eq]

/-- An integer that has a nearest finite double is not too long. -/
lemma digitCount_le_of_fitsDouble {n : Int} (h : (Number.int n).fitsDouble = true) :
    digitCount n.natAbs ≤ integerDigitLimit := by
  have hlt : n.natAbs < 2 ^ 1024 - 2 ^ 970 := Number.fitsDouble_int.1 h
  have hpow : 2 ^ 1024 - 2 ^ 970 ≤ 10 ^ 309 := by decide +kernel
  have hmono : 10 ^ 309 ≤ 10 ^ integerDigitLimit := Nat.pow_le_pow_right (by decide) (by decide)
  exact (digitCount_le_iff (by decide)).2 (hlt.trans_le (hpow.trans hmono))

namespace Rule

lemma isDecoded_operand (r : Rule) : r.operand.IsDecoded := by
  obtain ⟨r⟩ | ⟨r⟩ | ⟨r⟩ := r
  · obtain ⟨field, comparison, threshold, hfits⟩ := r
    cases threshold with
    | int i => exact .int (digitCount_le_of_fitsDouble hfits)
    | double x => exact .float _
  · exact .text _
  · exact .text _

lemma isPlain_operand (r : Rule) : r.operand.IsPlain := by
  obtain ⟨r⟩ | ⟨r⟩ | ⟨r⟩ := r
  · obtain ⟨field, comparison, threshold, hfits⟩ := r
    cases threshold <;> rfl
  · rfl
  · rfl

end Rule

end Shortlist
