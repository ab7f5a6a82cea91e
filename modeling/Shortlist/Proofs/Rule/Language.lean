import Shortlist.Proofs.Outcome
import Shortlist.Proofs.Rule.Document
import Shortlist.Proofs.Screening.Chronology

/-!
# The language of rules

Which documents are lists of rules.  `Family.Admits` says in full what the members of a rule may be,
family by family, without the types of rules; `Value.IsRule` adds that a rule has these three
members and no others.

`Rule.readList` accepts exactly the lists of such items (`Rule.readList_accepts_exactly`).  One
direction says that nothing else is let through, neither a boolean nor the text of a number nor a
fourth member; the other that no rule is refused.  A list that is accepted is not rearranged either:
the rules stand beside the items, each with the members of its item and of the family that the item
is of.

An integer has to be less than half a unit of the last place above the greatest double.  The date of
a rule may be any text that denotes an instant, so also one, such as `now`, whose instant depends on
the time of reading; whether there is one does not.
-/

namespace Shortlist

variable {now : Instant} {family : Family} {field operator : String} {value v : Value}

/-! ## What a rule may say -/

/-- The five comparisons as they are written. -/
def comparisonTexts : List String := [">=", "<=", ">", "<", "=="]

/-- The members that a rule of a family may have. -/
inductive Family.Admits (now : Instant) : Family → String → String → Value → Prop
  | integer {field operator : String} {n : Int} (hfield : field ∈ ["gpa", "age"])
      (hoperator : operator ∈ comparisonTexts) (hbound : n.natAbs < 2 ^ 1024 - 2 ^ 970) :
      Admits now .numeric field operator (.int n)
  | double {field operator : String} {x : FiniteDouble} (hfield : field ∈ ["gpa", "age"])
      (hoperator : operator ∈ comparisonTexts) : Admits now .numeric field operator
      (.float (.finite x))
  | date {operator : String} {t : Text} {x : Instant} (hoperator : operator ∈ comparisonTexts)
      (hinstant : (Value.text t).instant? now = .ok (some x)) :
      Admits now .date "graduation_date" operator (.text t)
  | equality {field operator : String} {t : Text} (hfield : field ∈ ["degree", "institution"])
      (hoperator : operator ∈ ["equals", "=="]) : Admits now .equality field operator (.text t)

/-- The value is a rule of the family: a mapping with three admitted members and no others. -/
def Value.IsRuleOf (v : Value) (now : Instant) (family : Family) (field operator : String)
    (value : Value) : Prop :=
  family.Admits now field operator value
    ∧ v.IsRecordOf [("field", .text field), ("operator", .text operator), ("value", value)]

/-- The value is a rule. -/
def Value.IsRule (v : Value) (now : Instant) : Prop :=
  ∃ family field operator value, v.IsRuleOf now family field operator value

/-! ## The written forms of names -/

/-- Of finitely many things, a text is the written form of one if it is among their written
forms. -/
lemma exists_write_iff {α : Type} (write : α → String) {all : List α} (hall : ∀ a, a ∈ all)
    {s : String} : (∃ a, write a = s) ↔ s ∈ all.map write := by
  rw [List.mem_map]
  exact exists_congr fun a => (and_iff_right (hall a)).symm

lemma NumericField.exists_name_iff : (∃ f : NumericField, f.fact.name = field)
    ↔ field ∈ ["gpa", "age"] :=
  exists_write_iff (fun f : NumericField => f.fact.name) NumericField.mem_all

lemma TextField.exists_name_iff : (∃ f : TextField, f.fact.name = field)
    ↔ field ∈ ["degree", "institution"] :=
  exists_write_iff (fun f : TextField => f.fact.name) TextField.mem_all

lemma EqualitySign.exists_text_iff : (∃ s : EqualitySign, s.text = operator)
    ↔ operator ∈ ["equals", "=="] :=
  exists_write_iff EqualitySign.text EqualitySign.mem_all

lemma Comparison.exists_symbol_iff : (∃ c : Comparison, c.symbol = operator)
    ↔ operator ∈ comparisonTexts :=
  exists_write_iff Comparison.symbol Comparison.mem_all

/-! ## The members of a rule -/

/-- The members of a rule are admitted. -/
lemma Rule.admits (now : Instant) (r : Rule) :
    r.family.Admits now r.field.name r.operatorText r.operand := by
  cases r with
  | numeric r =>
    have hfield := NumericField.exists_name_iff.1 ⟨r.field, rfl⟩
    have hoperator := Comparison.exists_symbol_iff.1 ⟨r.comparison, rfl⟩
    obtain ⟨field, comparison, threshold, hfits⟩ := r
    cases threshold with
    | int n => exact .integer hfield hoperator (Number.fitsDouble_int.1 hfits)
    | double x => exact .double hfield hoperator
  | date r => exact .date (Comparison.exists_symbol_iff.1 ⟨r.comparison, rfl⟩) (r.instant?_text now)
  | equality r =>
    exact .equality (TextField.exists_name_iff.1 ⟨r.field, rfl⟩)
      (EqualitySign.exists_text_iff.1 ⟨r.sign, rfl⟩)

/-- A text that denotes an instant stands for a moment. -/
lemma Value.exists_moment {t : Text} {x : Instant}
    (h : (Value.text t).instant? now = .ok (some x)) :
    ∃ s moment, t = .ofString s ∧ Moment.read? s = .ok (some moment) := by
  rw [Value.instant?] at h
  cases hs : t.string? with
  | none => simp [hs] at h
  | some s =>
    rw [hs] at h
    obtain ⟨moment?, hread, hmoment⟩ := Except.map_eq_ok.1 h
    obtain ⟨moment, rfl, -⟩ := Option.map_eq_some_iff.1 hmoment
    exact ⟨s, moment, Text.eq_ofString hs, hread⟩

/-- Members that are admitted are those of a rule. -/
lemma Family.Admits.exists_rule (h : family.Admits now field operator value) :
    ∃ r : Rule, r.family = family ∧ r.field.name = field ∧ r.operatorText = operator
      ∧ r.operand = value := by
  cases h with
  | integer hfield hoperator hbound =>
    obtain ⟨f, rfl⟩ := NumericField.exists_name_iff.2 hfield
    obtain ⟨c, rfl⟩ := Comparison.exists_symbol_iff.2 hoperator
    exact ⟨.numeric ⟨f, c, .int _, Number.fitsDouble_int.2 hbound⟩, rfl, rfl, rfl, rfl⟩
  | double hfield hoperator =>
    obtain ⟨f, rfl⟩ := NumericField.exists_name_iff.2 hfield
    obtain ⟨c, rfl⟩ := Comparison.exists_symbol_iff.2 hoperator
    exact ⟨.numeric ⟨f, c, .double _, rfl⟩, rfl, rfl, rfl, rfl⟩
  | date hoperator hinstant =>
    obtain ⟨c, rfl⟩ := Comparison.exists_symbol_iff.2 hoperator
    obtain ⟨s, moment, rfl, hread⟩ := Value.exists_moment hinstant
    exact ⟨.date ⟨c, s, moment, hread⟩, rfl, rfl, rfl, rfl⟩
  | equality hfield hoperator =>
    obtain ⟨f, rfl⟩ := TextField.exists_name_iff.2 hfield
    obtain ⟨s, rfl⟩ := EqualitySign.exists_text_iff.2 hoperator
    exact ⟨.equality ⟨f, s, _⟩, rfl, rfl, rfl, rfl⟩

/-! ## What is accepted -/

namespace Rule

/-- What a rule is read from is that rule. -/
lemma isRuleOf_of_read {r : Rule} (h : read v = .accepted r) (now : Instant) :
    v.IsRuleOf now r.family r.field.name r.operatorText r.operand :=
  ⟨r.admits now, read_eq_accepted.1 h⟩

lemma exists_read_iff (now : Instant) : (∃ r, read v = .accepted r) ↔ v.IsRule now := by
  constructor
  · rintro ⟨r, hr⟩
    exact ⟨_, _, _, _, isRuleOf_of_read hr now⟩
  · rintro ⟨family, field, operator, value, hadmits, hmembers⟩
    obtain ⟨r, rfl, rfl, rfl, rfl⟩ := hadmits.exists_rule
    exact ⟨r, read_eq_accepted.2 hmembers⟩

/-- A document is accepted exactly if it is a list of rules.  The rules that are read are as many as
the items, in the same order, and each is of the family of its item and has the members of its
item. -/
theorem readList_accepts_exactly (now : Instant) (raw : Value) :
    ((∃ rules, readList raw = .accepted rules)
        ↔ ∃ items, raw = .list items ∧ ∀ v ∈ items, v.IsRule now)
      ∧ ∀ rules, readList raw = .accepted rules → ∃ items, raw = .list items
        ∧ List.Forall₂ (fun v r => v.IsRuleOf now r.family r.field.name r.operatorText r.operand)
          items rules := by
  simp only [readList, Check.items_eq_accepted]
  constructor
  · rw [exists_comm]
    refine exists_congr fun items => ?_
    rw [exists_and_left, List.exists_forall₂_iff]
    simp only [exists_read_iff now]
  · rintro rules ⟨items, rfl, hitems⟩
    exact ⟨items, rfl, hitems.imp fun v r hr => isRuleOf_of_read hr now⟩

end Rule

end Shortlist
