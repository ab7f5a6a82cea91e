import Shortlist.Number.Shortest
import Shortlist.Proofs.Number.Digits
import Mathlib.Tactic.Ring
import Mathlib.Tactic.SplitIfs

/-!
# Decimal numerals of doubles

A decimal numeral that says exactly the value of a double is rounded to that double and to no other
(`ofDecimal_of_says`).  Two facts follow for the numeral that `FiniteDouble.shortest` finds: it
denotes the number (`ofDecimal_shortest`), and it has no trailing zeros (`isStripped_shortest`), so
that moving its point does not change what it denotes (`ofDecimal_shift`).

Values are natural numbers, all of them in units of the smallest positive double: a numeral says so
many units if its digits and its power of ten make them (`Decimal.Says`), with the power on the
other side of the equation if it is negative.  So no fractions come in.

The search for the shortest numeral tries those of up to seventeen digits and takes the expansion of
the number, which says its value exactly, if none of them will do.  Nothing has to be known about
how near the shorter ones come: whichever is taken was tested to denote the number.
-/

namespace Shortlist

/-! ## Places and magnitudes -/

namespace FiniteDouble

variable (x : FiniteDouble)

lemma shift_add_significand : x.shift * 2 ^ 52 + x.significand = x.rank := by
  have h : x.shift * 2 ^ 52 ≤ x.rank := by
    simp only [shift]
    omega
  simp only [significand]
  omega

lemma significand_lt : x.significand < 2 ^ 53 := by
  simp only [significand, shift]
  omega

lemma le_significand (h : 0 < x.shift) : 2 ^ 52 ≤ x.significand := by
  simp only [significand, shift] at h ⊢
  omega

lemma shift_le : x.shift ≤ 2045 := by
  have := x.rank_lt
  simp only [shift]
  omega

lemma rank_eq_zero_of_scaled (h : x.scaled = 0) : x.rank = 0 := by
  have hsig : x.significand = 0 := by
    rcases Nat.mul_eq_zero.1 h with hs | hp
    · exact hs
    · exact absurd hp (Nat.ne_of_gt (Nat.two_pow_pos _))
  have hshift : x.shift = 0 := by
    by_contra hne
    have := x.le_significand (Nat.pos_of_ne_zero hne)
    omega
  have := x.shift_add_significand
  omega

lemma scaled_lt : x.scaled < 2 ^ 1024 * 2 ^ 1074 := by
  have hpos : 0 < 2 ^ x.shift := Nat.two_pow_pos _
  have hlt : x.scaled < 2 ^ 53 * 2 ^ x.shift := (Nat.mul_lt_mul_right hpos).2 x.significand_lt
  have hpow {a b c : Nat} (h : a ≤ b + c) : 2 ^ a ≤ 2 ^ b * 2 ^ c := by
    rw [← Nat.pow_add]
    exact Nat.pow_le_pow_right (by decide) h
  rw [← Nat.pow_add] at hlt
  have := x.shift_le
  exact Nat.lt_of_lt_of_le hlt (hpow (by omega))

/-- The place at which a double is rounded is the place of its own last bit. -/
lemma log2_scaled_sub : x.scaled.log2 - 52 = x.shift := by
  by_cases hzero : x.scaled = 0
  · have hrank := x.rank_eq_zero_of_scaled hzero
    simp [hzero, shift, hrank]
  · by_cases hshift : x.shift = 0
    · have hlt : x.scaled < 2 ^ 53 := by
        simpa [scaled, hshift] using x.significand_lt
      have := (Nat.log2_lt hzero).2 hlt
      omega
    · have hlow : 2 ^ (52 + x.shift) ≤ x.scaled := by
        rw [Nat.pow_add]
        exact Nat.mul_le_mul_right _ (x.le_significand (Nat.pos_of_ne_zero hshift))
      have hhigh : x.scaled < 2 ^ (52 + x.shift + 1) := by
        rw [show 52 + x.shift + 1 = 53 + x.shift by omega, Nat.pow_add]
        exact (Nat.mul_lt_mul_right (Nat.two_pow_pos _)).2 x.significand_lt
      have := (Nat.log2_eq_iff hzero).2 ⟨hlow, hhigh⟩
      omega

end FiniteDouble

lemma roundHalfEven_mul {b : Nat} (hb : 0 < b) (q : Nat) : roundHalfEven (q * b) b = q := by
  simp only [roundHalfEven, Nat.mul_mod_left, Nat.mul_div_left _ hb]
  simp [hb]

namespace Double

lemma ofRank_of_lt {rank : Nat} (h : rank < 2047 * 2 ^ 52) (negative : Bool) :
    ofRank negative rank = .finite ⟨negative, rank, h⟩ := dif_pos h

/-- A quotient that is exactly a double is rounded to it. -/
lemma ofScaledRatio_scaled (x : FiniteDouble) (negative : Bool) {b : Nat} (hb : 0 < b) :
    ofScaledRatio negative (x.scaled * b) b = ofRank negative x.rank := by
  have hround : roundHalfEven (x.scaled * b) (b * 2 ^ x.shift) = x.significand := by
    have hregroup : x.scaled * b = x.significand * (b * 2 ^ x.shift) := by
      rw [FiniteDouble.scaled]
      ring
    rw [hregroup, roundHalfEven_mul (Nat.mul_pos hb (Nat.two_pow_pos _))]
  rw [ofScaledRatio]
  simp only [Nat.mul_div_left _ hb]
  rw [x.log2_scaled_sub, hround, x.shift_add_significand]

end Double

/-! ## Numerals -/

namespace Decimal

/-- A numeral says `n` units of `2 ^ -1074`. -/
def Says (d : Decimal) (n : Nat) : Prop :=
  d.digits * 10 ^ d.exponent.toNat * 2 ^ 1074 = n * 10 ^ (-d.exponent).toNat

/-- The digits of a numeral do not end in zero, unless they are zero. -/
def IsStripped (d : Decimal) : Prop := d.digits = 0 ∨ d.digits % 10 ≠ 0

/-- A zero at the end of the digits can be moved into the exponent. -/
lemma says_ten_mul {m : Nat} {e : Int} {n : Nat} :
    Says ⟨m * 10, e⟩ n ↔ Says ⟨m, e + 1⟩ n := by
  simp only [Says]
  generalize 2 ^ 1074 = unit
  by_cases he : 0 ≤ e
  · have h1 : (e + 1).toNat = e.toNat + 1 := by omega
    have h2 : (-e).toNat = 0 := by omega
    have h3 : (-(e + 1)).toNat = 0 := by omega
    have hregroup : m * 10 * 10 ^ e.toNat = m * 10 ^ (e.toNat + 1) := by ring
    rw [h1, h2, h3, hregroup]
  · have h1 : e.toNat = 0 := by omega
    have h2 : (e + 1).toNat = 0 := by omega
    have h3 : (-e).toNat = (-(e + 1)).toNat + 1 := by omega
    have hleft : m * 10 * 10 ^ 0 * unit = m * 10 ^ 0 * unit * 10 := by ring
    rw [h1, h2, h3, hleft, Nat.pow_succ, ← Nat.mul_assoc]
    exact Nat.mul_left_inj (by decide)

lemma says_stripZeros {fuel : Nat} {d : Decimal} {n : Nat} (h : d.Says n) :
    (stripZeros fuel d).Says n := by
  induction fuel generalizing d with
  | zero => exact h
  | succ fuel ih =>
    rw [stripZeros]
    split
    · rename_i hzero
      apply ih
      have hdigits : d.digits = d.digits / 10 * 10 := by omega
      have hd : d = ⟨d.digits / 10 * 10, d.exponent⟩ := by
        rw [← hdigits]
      rw [hd] at h
      exact says_ten_mul.1 h
    · exact h

lemma stripZeros_of_isStripped {d : Decimal} (h : d.IsStripped) (fuel : Nat) :
    stripZeros fuel d = d := by
  cases fuel with
  | zero => rfl
  | succ fuel =>
    rw [stripZeros, if_neg]
    rintro ⟨hne, hmod⟩
    rcases h with h | h
    · exact hne h
    · exact h hmod

lemma isStripped_stripZeros {fuel : Nat} {d : Decimal} (h : d.digits < 10 ^ fuel) :
    (stripZeros fuel d).IsStripped := by
  induction fuel generalizing d with
  | zero =>
    left
    simp only [stripZeros]
    omega
  | succ fuel ih =>
    rw [stripZeros]
    split
    · apply ih
      rw [Nat.pow_succ] at h
      simp only
      omega
    · rename_i hnot
      by_cases hzero : d.digits = 0
      · exact .inl hzero
      · exact .inr fun hmod => hnot ⟨hzero, hmod⟩

lemma isStripped_strip (d : Decimal) : d.strip.IsStripped :=
  isStripped_stripZeros (lt_pow_digitCount d.digits)

lemma strip_of_isStripped {d : Decimal} (h : d.IsStripped) : d.strip = d :=
  stripZeros_of_isStripped h _

lemma strip_strip (d : Decimal) : d.strip.strip = d.strip :=
  strip_of_isStripped d.isStripped_strip

/-- All zeros that were put at the end of stripped digits are taken away again. -/
lemma stripZeros_mul_pow {m : Nat} (hm : 0 < m) (hstripped : m % 10 ≠ 0) {k fuel : Nat}
    (hfuel : k ≤ fuel) (e : Int) : stripZeros fuel ⟨m * 10 ^ k, e⟩ = ⟨m, e + k⟩ := by
  induction k generalizing fuel e with
  | zero =>
    have h : IsStripped ⟨m * 10 ^ 0, e⟩ := .inr (by simpa using hstripped)
    rw [stripZeros_of_isStripped h]
    simp
  | succ k ih =>
    obtain ⟨fuel, rfl⟩ : ∃ f, fuel = f + 1 := ⟨fuel - 1, by omega⟩
    have hpos : m * 10 ^ (k + 1) ≠ 0 := Nat.mul_ne_zero (by omega) (by simp)
    have hten : m * 10 ^ (k + 1) = m * 10 ^ k * 10 := by ring
    rw [stripZeros, if_pos ⟨hpos, by simp only [hten]; omega⟩]
    have hdiv : m * 10 ^ (k + 1) / 10 = m * 10 ^ k := by omega
    simp only [hdiv]
    rw [ih (by omega)]
    congr 1
    push_cast
    ring

lemma strip_mul_pow {d : Decimal} (hd : 0 < d.digits) (hstripped : d.IsStripped) (k : Nat) :
    strip ⟨d.digits * 10 ^ k, d.exponent - k⟩ = d := by
  have hmod : d.digits % 10 ≠ 0 := hstripped.resolve_left (by omega)
  have hcount : k ≤ digitCount (d.digits * 10 ^ k) := by
    have hlt := lt_pow_digitCount (d.digits * 10 ^ k)
    have hle : 10 ^ k ≤ d.digits * 10 ^ k := Nat.le_mul_of_pos_left _ hd
    exact Nat.le_of_lt ((Nat.pow_lt_pow_iff_right (by decide)).1 (Nat.lt_of_le_of_lt hle hlt))
  rw [strip, stripZeros_mul_pow hd hmod hcount]
  simp

end Decimal

/-! ## Numerals and the doubles nearest to them -/

/-- A numeral of the value of a double is too short to overflow. -/
lemma Decimal.Says.places_le {d : Decimal} {x : FiniteDouble} (h : d.Says x.scaled)
    (hpos : 0 < d.digits) : d.exponent + digitCount d.digits ≤ 309 := by
  have hbits : 2 ^ 1024 < 10 ^ 309 := by decide +kernel
  have hunit : 0 < 2 ^ 1074 := Nat.two_pow_pos 1074
  have hx := x.scaled_lt
  simp only [Decimal.Says] at h
  -- as a variable the power is not computed
  generalize 2 ^ 1074 = unit at h hx hunit
  have hscaled : x.scaled < 10 ^ 309 * unit :=
    Nat.lt_trans hx ((Nat.mul_lt_mul_right hunit).2 hbits)
  have hlow := pow_le_of_digitCount hpos
  have hvalue : 10 ^ (digitCount d.digits - 1 + d.exponent.toNat)
      < 10 ^ (309 + (-d.exponent).toNat) := by
    rw [Nat.pow_add, Nat.pow_add]
    refine Nat.lt_of_mul_lt_mul_right (a := unit) ?_
    calc
      10 ^ (digitCount d.digits - 1) * 10 ^ d.exponent.toNat * unit
          ≤ d.digits * 10 ^ d.exponent.toNat * unit :=
        Nat.mul_le_mul_right _ (Nat.mul_le_mul_right _ hlow)
      _ = x.scaled * 10 ^ (-d.exponent).toNat := h
      _ < 10 ^ 309 * unit * 10 ^ (-d.exponent).toNat :=
        (Nat.mul_lt_mul_right (Nat.pow_pos (by decide))).2 hscaled
      _ = 10 ^ 309 * 10 ^ (-d.exponent).toNat * unit := by ring
  have := (Nat.pow_lt_pow_iff_right (by decide)).1 hvalue
  have := digitCount_pos d.digits
  omega

/-- A numeral of the value of a double is too great to vanish. -/
lemma Decimal.Says.le_places {d : Decimal} {x : FiniteDouble} (h : d.Says x.scaled)
    (hx : 0 < x.scaled) : -323 ≤ d.exponent + digitCount d.digits := by
  have hbits : 2 ^ 1074 < 10 ^ 324 := by decide +kernel
  simp only [Decimal.Says] at h
  generalize 2 ^ 1074 = unit at h hbits
  have hhigh := lt_pow_digitCount d.digits
  have hvalue : 10 ^ (-d.exponent).toNat
      < 10 ^ (digitCount d.digits + d.exponent.toNat + 324) := by
    calc
      10 ^ (-d.exponent).toNat ≤ x.scaled * 10 ^ (-d.exponent).toNat :=
        Nat.le_mul_of_pos_left _ hx
      _ = d.digits * 10 ^ d.exponent.toNat * unit := h.symm
      _ ≤ 10 ^ digitCount d.digits * 10 ^ d.exponent.toNat * unit :=
        Nat.mul_le_mul_right _ (Nat.mul_le_mul_right _ (Nat.le_of_lt hhigh))
      _ < 10 ^ digitCount d.digits * 10 ^ d.exponent.toNat * 10 ^ 324 :=
        (Nat.mul_lt_mul_left (Nat.mul_pos (Nat.pow_pos (by decide)) (Nat.pow_pos (by decide)))).2
          hbits
      _ = 10 ^ (digitCount d.digits + d.exponent.toNat + 324) := by
        rw [← Nat.pow_add, ← Nat.pow_add]
  have := (Nat.pow_lt_pow_iff_right (by decide)).1 hvalue
  omega

namespace Double

lemma ofStripped_of_says {d : Decimal} {x : FiniteDouble} (h : d.Says x.scaled)
    (negative : Bool) : ofStripped negative d = ofRank negative x.rank := by
  by_cases hdigits : d.digits = 0
  · have hscaled : x.scaled = 0 := by
      have hzero : x.scaled * 10 ^ (-d.exponent).toNat = 0 := by
        rw [← h, hdigits, Nat.zero_mul, Nat.zero_mul]
      exact (Nat.mul_eq_zero.1 hzero).resolve_right (Nat.ne_of_gt (Nat.pow_pos (by decide)))
    simp [ofStripped, hdigits, x.rank_eq_zero_of_scaled hscaled]
  · have hpos : 0 < d.digits := Nat.pos_of_ne_zero hdigits
    have hscaled : 0 < x.scaled := by
      by_contra hnot
      have hzero : d.digits * 10 ^ d.exponent.toNat * 2 ^ 1074 = 0 := by
        rw [h, Nat.eq_zero_of_not_pos hnot, Nat.zero_mul]
      exact absurd hzero (Nat.ne_of_gt (Nat.mul_pos (Nat.mul_pos hpos (Nat.pow_pos (by decide)))
        (Nat.two_pow_pos 1074)))
    have hle := h.places_le hpos
    have hge := h.le_places hscaled
    simp only [ofStripped]
    -- the numeral is neither zero nor out of range, so it is rounded as a ratio
    rw [if_neg hdigits, if_neg (by omega), if_neg (by omega)]
    simp only [Decimal.Says] at h
    simp only [ofRatio]
    split
    · rename_i hexp
      have hneg : (-d.exponent).toNat = 0 := by omega
      rw [hneg, Nat.pow_zero] at h
      rw [h]
      exact ofScaledRatio_scaled x negative (by decide)
    · rename_i hexp
      have hneg : d.exponent.toNat = 0 := by omega
      rw [hneg, Nat.pow_zero, Nat.mul_one] at h
      rw [h]
      exact ofScaledRatio_scaled x negative (Nat.pow_pos (by decide))

/-- A numeral that says the value of a double denotes that double. -/
theorem ofDecimal_of_says {d : Decimal} {x : FiniteDouble} (h : d.Says x.scaled)
    (negative : Bool) : ofDecimal negative d = ofRank negative x.rank :=
  ofStripped_of_says (Decimal.says_stripZeros h) negative

/-- Trailing zeros do not change what a numeral denotes. -/
lemma ofDecimal_strip (negative : Bool) (d : Decimal) :
    ofDecimal negative d.strip = ofDecimal negative d := by
  rw [ofDecimal, ofDecimal, Decimal.strip_strip]

/-- A numeral that is written with more zeros denotes what it denoted. -/
theorem ofDecimal_shift {d : Decimal} (hd : 0 < d.digits) (hstripped : d.IsStripped) (k : Nat)
    (negative : Bool) :
    ofDecimal negative ⟨d.digits * 10 ^ k, d.exponent - k⟩ = ofDecimal negative d := by
  rw [ofDecimal, ofDecimal, Decimal.strip_mul_pow hd hstripped,
    Decimal.strip_of_isStripped hstripped]

lemma ofDecimal_zero {d : Decimal} (h : d.digits = 0) (negative : Bool) :
    ofDecimal negative d = ofRank negative 0 := by
  have hstrip : d.strip = d := Decimal.strip_of_isStripped (.inl h)
  simp [ofDecimal, hstrip, ofStripped, h]

end Double

/-! ## The shortest numeral -/

namespace FiniteDouble

variable (x : FiniteDouble)

lemma expansion_says : x.expansion.Says x.scaled := by
  have hexp : (-(-1074 : Int)).toNat = 1074 := by decide
  have hten (k : Nat) : 10 ^ k = 5 ^ k * 2 ^ k := by rw [← Nat.mul_pow]
  have hpos : (-1074 : Int).toNat = 0 := by decide
  rw [Decimal.Says, expansion]
  simp only [hexp, hpos, Nat.pow_zero, Nat.mul_one]
  rw [hten, Nat.mul_assoc]

lemma isDenotedBy_iff {d : Decimal} :
    x.isDenotedBy d = true ↔ Double.ofDecimal x.negative d = .finite x := by
  unfold isDenotedBy
  exact decide_eq_true_iff

lemma denotes_of_choose? {denotes : Decimal → Bool} {fraction : Nat × Nat} {exponent : Int}
    {d : Decimal} (h : choose? denotes fraction exponent = some d) : denotes d = true := by
  simp only [choose?] at h
  split_ifs at h with hnearest hbelow habove
  · exact Option.some.inj h ▸ hnearest
  · exact Option.some.inj h ▸ hbelow
  · exact Option.some.inj h ▸ habove

lemma denoted_of_neighbour? {n : Nat} {d : Decimal} (h : x.neighbour? n = some d) :
    Double.ofDecimal x.negative d = .finite x := by
  unfold neighbour? at h
  exact x.isDenotedBy_iff.1 (denotes_of_choose? h)

/-- The shortest numeral of a number denotes it. -/
theorem ofDecimal_shortest : Double.ofDecimal x.negative x.shortest = .finite x := by
  rw [shortest, Double.ofDecimal_strip]
  cases h : (List.range' 1 17).findSome? x.neighbour? with
  | none =>
    rw [Option.getD_none, Double.ofDecimal_of_says x.expansion_says,
      Double.ofRank_of_lt x.rank_lt]
  | some d =>
    obtain ⟨n, -, hn⟩ := List.exists_of_findSome?_eq_some h
    exact x.denoted_of_neighbour? hn

theorem isStripped_shortest : x.shortest.IsStripped := by
  rw [shortest]
  exact Decimal.isStripped_strip _

lemma shortest_digits_pos (hrank : x.rank ≠ 0) : 0 < x.shortest.digits := by
  by_contra hnot
  have hlt : 0 < 2047 * 2 ^ 52 := Nat.lt_of_le_of_lt (Nat.zero_le _) x.rank_lt
  have hx := x.ofDecimal_shortest
  rw [Double.ofDecimal_zero (Nat.eq_zero_of_not_pos hnot), Double.ofRank_of_lt hlt] at hx
  exact hrank (congrArg rank (Double.finite.inj hx)).symm

end FiniteDouble

end Shortlist
