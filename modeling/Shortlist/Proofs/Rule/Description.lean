import Shortlist.Proofs.Json.Numeral
import Shortlist.Proofs.Number.Value
import Shortlist.Proofs.Rule.Document

/-!
# What a reason tells

A candidate who is turned down is told the descriptions of the rules that are not met.  A
description says which rule it is: two rules have the same one exactly if they ask for the same
thing (`Rule.description_eq_iff`).

The field and the operator come first, and neither has a space in it, so they can be told from what
follows, whatever words and spaces a date or a text may contain.  A threshold is written by its
value (`Number.display_eq_iff`): the texts of integers have digits only, the texts of doubles that
are no integers have a point or an exponent, and both are read back.  So the integer 3 and the
double 3.0 are told alike, and no two values are.
-/

namespace Shortlist

/-! ## Integers -/

lemma ofList_intChars (i : Int) : String.ofList (intChars i) = toString i := by
  cases i with
  | ofNat n => rfl
  | negSucc n =>
    rw [intChars, if_pos (Int.negSucc_lt_zero n), String.ofList_cons]
    rfl

lemma toDigits_injective : Function.Injective (Nat.toDigits 10) :=
  Function.LeftInverse.injective natOfDigits_toDigits

lemma intChars_injective : Function.Injective intChars := by
  intro i j h
  have hsign (k : Int) : '-' ∉ Nat.toDigits 10 k.natAbs := fun hmem =>
    absurd (isDigit_of_mem_toDigits hmem) (by decide)
  rw [intChars, intChars] at h
  split at h <;> split at h
  · have habs := toDigits_injective (List.cons.inj h).2
    omega
  · exact absurd (h ▸ List.mem_cons_self) (hsign j)
  · exact absurd (h ▸ List.mem_cons_self) (hsign i)
  · have habs := toDigits_injective h
    omega

/-! ## Doubles -/

namespace FiniteDouble

variable {x y : FiniteDouble} {i : Int}

/-- The integer that a double is, is its value. -/
lemma integral?_eq_some_iff : x.integral? = some i ↔ x.signedScaled = i * 2 ^ 1074 := by
  have hunit : (2 ^ 1074 : Int) ≠ 0 := pow_ne_zero _ (by decide)
  simp only [integral?]
  by_cases hmod : x.scaled % 2 ^ 1074 = 0
  · obtain ⟨k, hk⟩ := Nat.dvd_of_mod_eq_zero hmod
    have hdiv : x.scaled / 2 ^ 1074 = k := by
      rw [hk, Nat.mul_div_cancel_left k (Nat.two_pow_pos 1074)]
    have hcast : (x.scaled : Int) = k * 2 ^ 1074 := by
      rw [hk, mul_comm, Nat.cast_mul, Nat.cast_pow, Nat.cast_ofNat]
    have hsigned : x.signedScaled = (if x.negative then -(k : Int) else k) * 2 ^ 1074 := by
      rw [signedScaled, hcast]
      split
      · rw [neg_mul]
      · rfl
    rw [if_pos hmod, hdiv, hsigned, mul_left_inj' hunit, Option.some.injEq]
  · rw [if_neg hmod]
    refine iff_of_false (by simp) fun h => hmod ?_
    have habs : x.signedScaled.natAbs = x.scaled := by
      rw [signedScaled]
      split <;> simp
    have htwo : (2 : Int).natAbs = 2 := rfl
    rw [← habs, h, Int.natAbs_mul, Int.natAbs_pow, htwo, Nat.mul_mod_left]

lemma displayThreshold_of_integral (h : x.integral? = some i) :
    x.displayThreshold = intChars i := by
  rw [displayThreshold, h, Option.elim_some]

lemma displayThreshold_of_not_integral (h : x.integral? = none) :
    x.displayThreshold = Layout.report.write x := by
  rw [displayThreshold, h, Option.elim_none]

lemma rank_eq_of_scaled (h : x.scaled = y.scaled) : x.rank = y.rank := by
  have hx := Double.ofScaledRatio_scaled x false (b := 1) (by decide)
  rw [h, Double.ofScaledRatio_scaled y false (by decide), Double.ofRank_of_lt y.rank_lt,
    Double.ofRank_of_lt x.rank_lt, Double.finite.injEq, FiniteDouble.mk.injEq] at hx
  exact hx.2.symm

/-- A double that is not zero is determined by its value. -/
lemma eq_of_signedScaled (hx : x.signedScaled ≠ 0) (h : x.signedScaled = y.signedScaled) :
    x = y := by
  have hsame : x.negative = y.negative ∧ x.scaled = y.scaled := by
    rw [signedScaled] at hx
    rw [signedScaled, signedScaled] at h
    -- only zero has the same value with either sign
    cases hsx : x.negative <;> cases hsy : y.negative <;>
      simp only [hsx, hsy, Bool.false_eq_true, if_true, if_false] at h hx <;>
      first
        | exact ⟨rfl, by omega⟩
        | omega
  have hrank := rank_eq_of_scaled hsame.2
  obtain ⟨negative, rank, hlt⟩ := x
  obtain ⟨negative', rank', hlt'⟩ := y
  obtain rfl : negative = negative' := hsame.1
  obtain rfl : rank = rank' := hrank
  rfl

end FiniteDouble

namespace Layout

lemma write_injective (layout : Layout) : Function.Injective layout.write := by
  intro x y h
  have hx := Json.readNumber?_write layout x Json.follows_nil
  rw [h, Json.readNumber?_write layout y Json.follows_nil] at hx
  simpa using hx.symm

lemma point_mem_positional (d : Decimal) : '.' ∈ positional d := by
  simp only [positional]
  split
  · simp
  · split <;> simp

lemma mark_mem_scientific (layout : Layout) (d : Decimal) : 'e' ∈ layout.scientific d := by
  simp [scientific]

/-- A double is written with a point or an exponent, also if it is an integer. -/
lemma point_or_mark_mem_write (layout : Layout) (x : FiniteDouble) :
    '.' ∈ layout.write x ∨ 'e' ∈ layout.write x := by
  have hsigned {cs : List Char} (h : '.' ∈ cs ∨ 'e' ∈ cs) :
      '.' ∈ (if x.negative then '-' :: cs else cs)
        ∨ 'e' ∈ if x.negative then '-' :: cs else cs := by
    split
    · exact h.imp (List.mem_cons_of_mem _) (List.mem_cons_of_mem _)
    · exact h
  refine hsigned ?_
  split
  · exact .inl (by simp)
  · dsimp only
    split
    · exact .inl (point_mem_positional x.shortest)
    · exact .inr (mark_mem_scientific layout x.shortest)

end Layout

/-! ## Thresholds -/

namespace Number

variable {m n : Number} {i : Int}

lemma integral?_eq_some_iff : n.integral? = some i ↔ n.value = i := by
  have hvalue : n.value = i ↔ n.scaled = i * 2 ^ 1074 := value_eq_iff (n := .int i)
  rw [hvalue]
  cases n with
  | int j =>
    have hunit : (2 ^ 1074 : Int) ≠ 0 := pow_ne_zero _ (by decide)
    rw [integral?, scaled, mul_left_inj' hunit, Option.some.injEq]
  | double x => exact FiniteDouble.integral?_eq_some_iff

/-- A threshold that is an integer is written as the integer. -/
lemma display_of_integral (h : n.integral? = some i) : n.display = toString i := by
  rw [← ofList_intChars]
  cases n with
  | int j =>
    cases h
    rfl
  | double x =>
    rw [integral?] at h
    exact congrArg String.ofList (FiniteDouble.displayThreshold_of_integral h)

/-- A threshold that is no integer is a double that is not zero, and is written as one. -/
lemma exists_display_of_not_integral (h : n.integral? = none) :
    ∃ x : FiniteDouble, n = .double x ∧ x.signedScaled ≠ 0
      ∧ n.display = String.ofList (Layout.report.write x) := by
  cases n with
  | int j => cases h
  | double x =>
    rw [integral?] at h
    refine ⟨x, rfl, fun hzero => ?_,
      congrArg String.ofList (FiniteDouble.displayThreshold_of_not_integral h)⟩
    have hsome : x.integral? = some 0 :=
      FiniteDouble.integral?_eq_some_iff.2 (by rw [hzero, zero_mul])
    rw [h] at hsome
    cases hsome

/-- Neither the text nor the value of an integer is that of a number that is none. -/
lemma ne_of_not_integral (hm : m.integral? = none) (hn : n.integral? = some i) :
    m.display ≠ n.display ∧ m.value ≠ n.value := by
  constructor
  · intro h
    obtain ⟨x, -, -, hdisplay⟩ := exists_display_of_not_integral hm
    rw [hdisplay, display_of_integral hn, ← ofList_intChars, String.ofList_inj] at h
    rcases Layout.report.point_or_mark_mem_write x with hmem | hmem <;> rw [h] at hmem <;>
      exact absurd (Json.mem_intChars hmem) (by decide)
  · intro h
    rw [integral?_eq_some_iff.1 hn, ← integral?_eq_some_iff, hm] at h
    cases h

/-- Thresholds are written alike exactly if they are equal as numbers. -/
theorem display_eq_iff : m.display = n.display ↔ m.value = n.value := by
  cases hm : m.integral? with
  | none =>
    cases hn : n.integral? with
    | none =>
      obtain ⟨x, rfl, hx, hdisplay⟩ := exists_display_of_not_integral hm
      obtain ⟨y, rfl, -, hdisplay'⟩ := exists_display_of_not_integral hn
      rw [hdisplay, hdisplay', String.ofList_inj, (Layout.report.write_injective).eq_iff,
        value_eq_iff]
      refine ⟨fun h => h ▸ rfl, fun h => FiniteDouble.eq_of_signedScaled hx h⟩
    | some j => exact iff_of_false (ne_of_not_integral hm hn).1 (ne_of_not_integral hm hn).2
  | some i =>
    cases hn : n.integral? with
    | none =>
      exact iff_of_false (ne_of_not_integral hn hm).1.symm (ne_of_not_integral hn hm).2.symm
    | some j =>
      rw [display_of_integral hm, display_of_integral hn, integral?_eq_some_iff.1 hm,
        integral?_eq_some_iff.1 hn, ← ofList_intChars, ← ofList_intChars, String.ofList_inj,
        intChars_injective.eq_iff, Int.cast_inj]

/-- The text of a threshold as a value is its text as a number; it is never too long. -/
lemma displayThreshold_toValue (h : n.fitsDouble = true) :
    n.toValue.displayThreshold = .ok (.ofString n.display) := by
  cases n with
  | int j =>
    have hshort : digitCount j.natAbs ≤ integerDigitLimit := digitCount_le_of_fitsDouble h
    have hchars : intChars? j = .ok (intChars j) := if_neg (Nat.not_lt.2 hshort)
    have hvalue : (toValue (.int j)).displayThreshold = (intChars? j).map .ofChars := rfl
    have hdisplay : (int j).display = String.ofList (intChars j) := rfl
    rw [hvalue, hchars, hdisplay, Text.ofString, String.toList_ofList]
    rfl
  | double x =>
    have hdisplay : (double x).display = String.ofList x.displayThreshold := rfl
    rw [hdisplay, Text.ofString, String.toList_ofList]
    rfl

end Number

/-! ## Descriptions -/

/-- What stands before the first mark and what stands after it can be told apart. -/
lemma append_cons_inj_of_not_mem {α : Type} {mark : α} {xs xs' ys ys' : List α} (h : mark ∉ xs)
    (h' : mark ∉ xs') : xs ++ mark :: ys = xs' ++ mark :: ys' ↔ xs = xs' ∧ ys = ys' := by
  refine ⟨fun heq => ?_, fun ⟨hxs, hys⟩ => by rw [hxs, hys]⟩
  induction xs generalizing xs' with
  | nil =>
    cases xs' with
    | nil => exact ⟨rfl, (List.cons.inj heq).2⟩
    | cons x' xs' => exact absurd ((List.cons.inj heq).1 ▸ List.mem_cons_self) h'
  | cons x xs ih =>
    rw [List.mem_cons, not_or] at h
    cases xs' with
    | nil => exact absurd (List.cons.inj heq).1.symm h.1
    | cons x' xs' =>
      rw [List.mem_cons, not_or] at h'
      obtain ⟨hhead, htail⟩ := List.cons.inj heq
      obtain ⟨hxs, hys⟩ := ih h.2 h'.2 htail
      exact ⟨by rw [hhead, hxs], hys⟩

namespace Rule

/-- The operator as a reason gives it: the two signs of equality are one. -/
def spokenOperator : Rule → String
  | .numeric r => r.comparison.symbol
  | .date r => r.comparison.symbol
  | .equality _ => EqualitySign.word.text

/-- The value as a reason gives it. -/
def spokenValue : Rule → Text
  | .numeric r => r.threshold.display
  | .date r => r.text
  | .equality r => r.text

/-- Two rules ask for the same thing: the same operator is applied to the same fact and the same
value.  Thresholds are the same if they are equal as numbers. -/
inductive AsksSame : Rule → Rule → Prop where
  | numeric {r s : NumericRule} (field : r.field = s.field)
    (comparison : r.comparison = s.comparison)
    (threshold : r.threshold.value = s.threshold.value) : AsksSame (.numeric r) (.numeric s)
  | date {r s : DateRule} (comparison : r.comparison = s.comparison) (text : r.text = s.text) :
    AsksSame (.date r) (.date s)
  | equality {r s : EqualityRule} (field : r.field = s.field) (text : r.text = s.text) :
    AsksSame (.equality r) (.equality s)

/-- A description is made of the field, the operator and the value, with spaces between them, and of
two words at the end. -/
lemma points_description (r : Rule) :
    r.description.points
      = (Text.ofString r.field.name).points ++ CodePoint.ofChar ' '
        :: ((Text.ofString r.spokenOperator).points ++ CodePoint.ofChar ' '
          :: (r.spokenValue.points ++ (Text.ofString " not satisfied").points)) := by
  cases r with
  | numeric r => simp [description, field, spokenOperator, spokenValue, Text.ofString, Text.ofChars]
  | date r => simp [description, field, spokenOperator, spokenValue, Text.ofString, Text.ofChars]
  | equality r =>
    have happend (s t : Text) : (s ++ t).points = s.points ++ t.points := rfl
    simp [description, field, spokenOperator, spokenValue, Text.ofString, Text.ofChars, happend,
      EqualitySign.text]

lemma space_not_mem_name (f : FactField) :
    CodePoint.ofChar ' ' ∉ (Text.ofString f.name).points := by
  cases f <;> decide

lemma space_not_mem_spokenOperator (r : Rule) :
    CodePoint.ofChar ' ' ∉ (Text.ofString r.spokenOperator).points := by
  have hsymbol (c : Comparison) : CodePoint.ofChar ' ' ∉ (Text.ofString c.symbol).points := by
    cases c <;> decide
  cases r with
  | numeric r => exact hsymbol r.comparison
  | date r => exact hsymbol r.comparison
  | equality r =>
    rw [spokenOperator]
    decide

/-- The field of a rule tells its family. -/
lemma family_eq_of_field {r s : Rule} (h : r.field = s.field) : r.family = s.family := by
  have htag := tag?_field r
  rw [h, tag?_field s, Option.some.injEq, Prod.mk.injEq] at htag
  exact htag.2.symm

/-- Rules ask for the same thing if the same words are said of them: the field already tells the
family. -/
lemma asksSame_iff {r s : Rule} : r.AsksSame s
    ↔ r.field = s.field ∧ r.spokenOperator = s.spokenOperator ∧ r.spokenValue = s.spokenValue := by
  constructor
  · intro h
    cases h with
    | numeric field comparison threshold =>
      exact ⟨congrArg NumericField.fact field, congrArg Comparison.symbol comparison,
        congrArg Text.ofString (Number.display_eq_iff.2 threshold)⟩
    | date comparison text =>
      exact ⟨rfl, congrArg Comparison.symbol comparison, congrArg Text.ofString text⟩
    | equality field text => exact ⟨congrArg TextField.fact field, rfl, text⟩
  · rintro ⟨hfield, hoperator, hvalue⟩
    -- no field is in two families
    have hfamily := family_eq_of_field hfield
    cases r with
    | numeric r =>
      cases s with
      | numeric s =>
        exact .numeric (NumericField.name_injective (congrArg FactField.name hfield))
          (Comparison.symbol_injective hoperator)
          (Number.display_eq_iff.1 (Text.ofString_injective hvalue))
      | date s => cases hfamily
      | equality s => cases hfamily
    | date r =>
      cases s with
      | numeric s => cases hfamily
      | date s =>
        exact .date (Comparison.symbol_injective hoperator) (Text.ofString_injective hvalue)
      | equality s => cases hfamily
    | equality r =>
      cases s with
      | numeric s => cases hfamily
      | date s => cases hfamily
      | equality s =>
        exact .equality (TextField.name_injective (congrArg FactField.name hfield)) hvalue

/-- Two rules are described alike exactly if they ask for the same thing. -/
theorem description_eq_iff {r s : Rule} : r.description = s.description ↔ r.AsksSame s := by
  rw [asksSame_iff, ← Text.points_inj, points_description, points_description,
    append_cons_inj_of_not_mem (space_not_mem_name _) (space_not_mem_name _),
    append_cons_inj_of_not_mem (space_not_mem_spokenOperator r) (space_not_mem_spokenOperator s),
    List.append_cancel_right_eq, Text.points_inj, Text.points_inj, Text.points_inj,
      Text.ofString_inj,
    Text.ofString_inj, FactField.name_injective.eq_iff]

/-- A reason identifies the rule that is not met.  In particular thresholds are written alike
exactly if they are equal as numbers, and one is written as an integer exactly if it is that
integer, however large and of whichever kind. -/
theorem description_identifies :
    (∀ r s : Rule, r.description = s.description ↔ r.AsksSame s)
      ∧ (∀ m n : Number, m.display = n.display ↔ m.value = n.value)
      ∧ (∀ (n : Number) (i : Int), n.display = toString i ↔ n.value = i)
      ∧ ∀ r : NumericRule,
        r.threshold.toValue.displayThreshold = .ok (.ofString r.threshold.display) := by
  refine ⟨fun r s => description_eq_iff, fun m n => Number.display_eq_iff, fun n i => ?_,
    fun r => Number.displayThreshold_toValue r.threshold_fits⟩
  have hint : (Number.int i).display = toString i := Number.display_of_integral rfl
  rw [← hint, Number.display_eq_iff]
  rfl

end Rule

end Shortlist
