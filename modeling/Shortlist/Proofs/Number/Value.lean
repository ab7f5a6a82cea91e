import Mathlib.Algebra.Order.Field.Power
import Mathlib.Data.Rat.Cast.Order
import Shortlist.Number.Exact

/-!
# What a number is worth

The value of a double is given here by the fields of its binary form, as a rational number: a sign,
an exponent field of eleven bits and a fraction field of 52 bits.  An exponent field of zero marks
the numbers nearest to zero, which have no leading one (`FiniteDouble.magnitude`).

`Number.scaled` counts the same value in units of `2 ^ -1074` (`Number.value_eq`).  The unit is
positive, so comparing the counts is comparing the values, for integers and doubles in any mixture
(`Number.value_le_iff`, `Number.value_lt_iff`, `Number.value_eq_iff`).
-/

namespace Shortlist

/-! ## Doubles -/

namespace FiniteDouble

/-- The exponent field of the binary form. -/
def exponentField (x : FiniteDouble) : Nat := x.rank / 2 ^ 52

/-- The fraction field of the binary form. -/
def fractionField (x : FiniteDouble) : Nat := x.rank % 2 ^ 52

/-- The exact magnitude of a double. -/
def magnitude (x : FiniteDouble) : ℚ :=
  if x.exponentField = 0 then x.fractionField / 2 ^ 52 * 2 ^ (-1022 : ℤ)
  else (1 + x.fractionField / 2 ^ 52) * 2 ^ (x.exponentField - 1023 : ℤ)

/-- The exact value of a double; both zeros are worth zero. -/
def value (x : FiniteDouble) : ℚ := if x.negative then -x.magnitude else x.magnitude

variable {x : FiniteDouble}

lemma scaled_of_exponentField_zero (h : x.exponentField = 0) : x.scaled = x.fractionField := by
  have hrank : x.rank < 2 ^ 52 := by
    simp only [exponentField] at h
    omega
  have hshift : x.shift = 0 := by rw [shift, ← exponentField, h]
  rw [scaled, significand, hshift, fractionField, Nat.mod_eq_of_lt hrank]
  simp

lemma scaled_of_exponentField_succ {e : Nat} (h : x.exponentField = e + 1) :
    x.scaled = (2 ^ 52 + x.fractionField) * 2 ^ e := by
  have hshift : x.shift = e := by rw [shift, ← exponentField, h, Nat.add_sub_cancel]
  have hsignificand : x.significand = 2 ^ 52 + x.fractionField := by
    simp only [significand, hshift, fractionField, exponentField] at h ⊢
    omega
  rw [scaled, hsignificand, hshift]

lemma magnitude_eq (x : FiniteDouble) : x.magnitude = x.scaled * 2 ^ (-1074 : ℤ) := by
  -- the fraction field counts in units of `2 ^ -52`
  have hsplit {y z : ℤ} (h : z = 52 + y) : (2 : ℚ) ^ z = 2 ^ 52 * 2 ^ y := by
    rw [h, zpow_add₀ (by decide)]
    rfl
  have hfraction : (x.fractionField / 2 ^ 52 : ℚ) * 2 ^ 52 = x.fractionField :=
    div_mul_cancel₀ _ (by decide)
  rcases hfield : x.exponentField with _ | e
  · have hunit : (2 : ℚ) ^ (-1022 : ℤ) = 2 ^ 52 * 2 ^ (-1074 : ℤ) := hsplit (by decide)
    rw [magnitude, if_pos hfield, scaled_of_exponentField_zero hfield, hunit, ← mul_assoc,
      hfraction]
  · have hunit : (2 : ℚ) ^ (((e + 1 : ℕ) : ℤ) - 1023) = 2 ^ 52 * 2 ^ (e + -1074 : ℤ) :=
      hsplit (by push_cast; omega)
    have hscaled : (x.scaled : ℚ) = (2 ^ 52 + x.fractionField) * 2 ^ e := by
      exact_mod_cast scaled_of_exponentField_succ hfield
    rw [magnitude, if_neg (by omega), hscaled, hfield, hunit, zpow_add₀ (by decide), zpow_natCast,
      ← mul_assoc, ← mul_assoc, add_mul, one_mul, hfraction]

lemma value_eq (x : FiniteDouble) : x.value = x.signedScaled * 2 ^ (-1074 : ℤ) := by
  rw [value, signedScaled, magnitude_eq]
  cases x.negative with
  | true => rw [if_pos rfl, if_pos rfl, Int.cast_neg, Int.cast_natCast, neg_mul]
  | false => rw [if_neg Bool.false_ne_true, if_neg Bool.false_ne_true, Int.cast_natCast]

end FiniteDouble

/-! ## Integers and doubles -/

namespace Number

/-- The exact value of a number. -/
def value : Number → ℚ
  | .int n => n
  | .double x => x.value

/-- The value is counted without loss in units of `2 ^ -1074`. -/
theorem value_eq (n : Number) : n.value = n.scaled * 2 ^ (-1074 : ℤ) := by
  cases n with
  | double x => exact x.value_eq
  | int i =>
    have hunit : ((2 ^ 1074 : ℤ) : ℚ) * 2 ^ (-1074 : ℤ) = 1 := by
      have hne : (2 : ℚ) ^ (1074 : ℕ) ≠ 0 := pow_ne_zero _ (by decide)
      rw [zpow_neg, Int.cast_pow]
      exact mul_inv_cancel₀ hne
    rw [value, scaled, Int.cast_mul, mul_assoc, hunit, mul_one]

variable {m n : Number}

theorem value_le_iff : m.value ≤ n.value ↔ m.scaled ≤ n.scaled := by
  rw [value_eq, value_eq, mul_le_mul_iff_of_pos_right (zpow_pos (by decide) _)]
  exact Int.cast_le

theorem value_lt_iff : m.value < n.value ↔ m.scaled < n.scaled := by
  rw [value_eq, value_eq, mul_lt_mul_iff_of_pos_right (zpow_pos (by decide) _)]
  exact Int.cast_lt

theorem value_eq_iff : m.value = n.value ↔ m.scaled = n.scaled := by
  rw [value_eq, value_eq, mul_left_inj' (zpow_ne_zero _ (by decide))]
  exact Int.cast_inj

end Number

end Shortlist
