import Mathlib.Tactic.Lemma
import Shortlist.Number.Numeral

/-!
# Decimal digits and the numbers they say

`Nat.toDigits 10` writes a natural number and `natOfDigits` reads it.  The two are inverse to each
other (`natOfDigits_toDigits`), and the number of digits bounds the number from both sides
(`lt_pow_digitCount`, `pow_le_of_digitCount`).  A positive number does not start with a zero, which
is what a reader of JSON relies on to tell a lone zero from a longer numeral.
-/

namespace Shortlist

/-! ## Digits -/

lemma isDigit_iff (c : Char) : isDigit c = true ↔ 48 ≤ c.toNat ∧ c.toNat ≤ 57 := by
  simp only [isDigit, Bool.and_eq_true, decide_eq_true_eq]
  exact Iff.rfl

lemma isDigit_zero : isDigit '0' = true := by decide

lemma isDigit_of_mem_toDigits {n : Nat} {c : Char} (h : c ∈ Nat.toDigits 10 n) :
    isDigit c = true := by
  have hc : c.isDigit = true := Nat.isDigit_of_mem_toDigits (by decide) (by decide) h
  rw [isDigit_iff]
  simp only [Char.isDigit, Bool.and_eq_true, decide_eq_true_eq] at hc
  exact ⟨hc.1, hc.2⟩

/-- Digits that end where the text goes on with something else are taken as a whole. -/
lemma takeWhile_isDigit_append {ds rest : List Char} (hds : ∀ c ∈ ds, isDigit c = true)
    (hrest : ∀ c ∈ rest.head?, isDigit c = false) :
    (ds ++ rest).takeWhile isDigit = ds ∧ (ds ++ rest).dropWhile isDigit = rest := by
  have hhead : rest.takeWhile isDigit = [] ∧ rest.dropWhile isDigit = rest := by
    cases rest with
    | nil => simp
    | cons c cs =>
      have hc : isDigit c = false := hrest c (by simp)
      simp [hc]
  rw [List.takeWhile_append_of_pos hds, List.dropWhile_append_of_pos hds, hhead.1, hhead.2]
  simp

/-! ## Reading what was written -/

lemma natOfDigits_eq_ofDigitChars (ds : List Char) :
    natOfDigits ds = Nat.ofDigitChars 10 ds 0 := by
  rw [natOfDigits, Nat.ofDigitChars_eq_foldl]
  congr 1
  funext n c
  rw [Nat.mul_comm]

theorem natOfDigits_toDigits (n : Nat) : natOfDigits (Nat.toDigits 10 n) = n := by
  rw [natOfDigits_eq_ofDigitChars, Nat.ofDigitChars_ten_toDigits]

lemma natOfDigits_append (ds es : List Char) :
    natOfDigits (ds ++ es) = 10 ^ es.length * natOfDigits ds + natOfDigits es := by
  simp only [natOfDigits_eq_ofDigitChars]
  rw [Nat.ofDigitChars_append, Nat.ofDigitChars_eq_ofDigitChars_zero]

lemma natOfDigits_replicate_zero (k : Nat) : natOfDigits (List.replicate k '0') = 0 := by
  rw [natOfDigits_eq_ofDigitChars, Nat.ofDigitChars_replicate_zero, Nat.mul_zero]

/-- Zeros in front do not count. -/
lemma natOfDigits_zeros_append (k : Nat) (ds : List Char) :
    natOfDigits (List.replicate k '0' ++ ds) = natOfDigits ds := by
  rw [natOfDigits_append, natOfDigits_replicate_zero, Nat.mul_zero, Nat.zero_add]

lemma natOfDigits_lt {ds : List Char} (hds : ∀ c ∈ ds, isDigit c = true) :
    natOfDigits ds < 10 ^ ds.length := by
  induction ds with
  | nil => simp [natOfDigits]
  | cons c ds ih =>
    have hc : 48 ≤ c.toNat ∧ c.toNat ≤ 57 := (isDigit_iff c).1 (hds c (by simp))
    have hrest : natOfDigits ds < 10 ^ ds.length := ih fun d hd => hds d (by simp [hd])
    have hcons : natOfDigits (c :: ds) = 10 ^ ds.length * (c.toNat - 48) + natOfDigits ds := by
      have := natOfDigits_append [c] ds
      simpa [natOfDigits] using this
    have hle : 10 ^ ds.length * (c.toNat - 48) ≤ 10 ^ ds.length * 9 :=
      Nat.mul_le_mul_left _ (by omega)
    rw [hcons, List.length_cons, Nat.pow_succ]
    omega

/-! ## How many digits -/

lemma digitCount_pos (n : Nat) : 0 < digitCount n := Nat.length_toDigits_pos

lemma digitCount_le_iff {n k : Nat} (hk : 0 < k) : digitCount n ≤ k ↔ n < 10 ^ k :=
  Nat.length_toDigits_le_iff (by decide) hk

theorem lt_pow_digitCount (n : Nat) : n < 10 ^ digitCount n :=
  (digitCount_le_iff (digitCount_pos n)).1 (Nat.le_refl _)

theorem pow_le_of_digitCount {n : Nat} (hn : 0 < n) : 10 ^ (digitCount n - 1) ≤ n := by
  by_cases h : digitCount n = 1
  · rw [h, Nat.sub_self, Nat.pow_zero]
    exact hn
  · have hpos := digitCount_pos n
    have hk : 0 < digitCount n - 1 := by omega
    have hnot : ¬ digitCount n ≤ digitCount n - 1 := by omega
    rw [digitCount_le_iff hk] at hnot
    omega

/-- A positive number does not start with a zero. -/
lemma head_toDigits_ne_zero {n : Nat} (hn : 0 < n) :
    ∃ c ds, Nat.toDigits 10 n = c :: ds ∧ c ≠ '0' := by
  obtain ⟨c, ds, hcons⟩ := List.exists_cons_of_ne_nil (Nat.toDigits_ne_nil (n := n) (b := 10))
  refine ⟨c, ds, hcons, ?_⟩
  rintro rfl
  have hdigits : ∀ d ∈ ds, isDigit d = true := fun d hd =>
    isDigit_of_mem_toDigits (n := n) (by rw [hcons]; simp [hd])
  have hvalue : natOfDigits ds = n := by
    have h := natOfDigits_append ['0'] ds
    rw [List.singleton_append, ← hcons, natOfDigits_toDigits] at h
    simpa [natOfDigits] using h.symm
  have hlt := natOfDigits_lt hdigits
  have hge := pow_le_of_digitCount hn
  have hcount : digitCount n - 1 = ds.length := by
    rw [digitCount, hcons]
    simp
  rw [hcount] at hge
  omega

end Shortlist
