import Shortlist.Json.Writer
import Shortlist.Json.Reader
import Shortlist.Proofs.Number.Exactness

/-!
# Numbers in JSON texts

A number that is written is read back, whatever follows it in the document
(`readNumber?_intChars`, `readNumber?_write`).  For a double this rests on two facts: the three ways
in which a `Layout` sets out a numeral say the same number, so that reading gives a numeral which
differs from the written one by trailing zeros at most, and the written numeral is the shortest one
that denotes the double.

A numeral is taken in by its parts: the digits in front of the point (`IsWhole`), those behind it,
and the exponent.  Each part ends where a character stands that cannot belong to it.  Behind the
last part this is what may follow a value (`Follows`), and it is a condition on one character, so
that the reader of documents can discharge it without knowing what else is written.

An integer is the one numeral that is written with more zeros than it has.  They are read as digits,
and by `Double.ofDecimal_shift` this does not change the double, because the shortest numeral has no
trailing zeros.
-/

namespace Shortlist.Json

/-- What may follow a value in a document: nothing, a comma, a closing bracket, or a line break. -/
def Follows (rest : List Char) : Prop :=
  ∀ c ∈ rest.head?, c = ',' ∨ c = ']' ∨ c = '\x7d' ∨ c = '\n'

lemma follows_nil : Follows [] := by
  intro c hc
  simp at hc

lemma follows_cons {c : Char} (hc : c = ',' ∨ c = ']' ∨ c = '\x7d' ∨ c = '\n')
    (rest : List Char) : Follows (c :: rest) := by
  intro c' hc'
  simp only [List.head?_cons, Option.mem_def, Option.some.injEq] at hc'
  exact hc' ▸ hc

lemma Follows.not_isDigit {rest : List Char} (h : Follows rest) :
    ∀ c ∈ rest.head?, isDigit c = false := by
  intro c hc
  rcases h c hc with rfl | rfl | rfl | rfl <;> decide

/-! ## The parts of a numeral -/

/-- The digits in front of a point: a zero alone, or digits that begin with another one. -/
def IsWhole (ws : List Char) : Prop :=
  (∀ c ∈ ws, isDigit c = true) ∧ (ws = ['0'] ∨ ∃ c cs, ws = c :: cs ∧ c ≠ '0')

lemma isWhole_toDigits (n : Nat) : IsWhole (Nat.toDigits 10 n) := by
  refine ⟨fun c hc => isDigit_of_mem_toDigits hc, ?_⟩
  rcases Nat.eq_zero_or_pos n with rfl | hn
  · exact .inl (Nat.toDigits_zero 10)
  · exact .inr (head_toDigits_ne_zero hn)

lemma isWhole_append {ws ds : List Char} (hws : ∃ c cs, ws = c :: cs ∧ c ≠ '0')
    (hdigits : ∀ c ∈ ws ++ ds, isDigit c = true) : IsWhole (ws ++ ds) := by
  obtain ⟨c, cs, rfl, hc⟩ := hws
  exact ⟨hdigits, .inr ⟨c, cs ++ ds, rfl, hc⟩⟩

lemma zero_ne_nil : ['0'] ≠ [] := by simp

lemma isDigit_of_mem_zero : ∀ c ∈ ['0'], isDigit c = true := by
  simp [isDigit_zero]

lemma wholeDigits?_append {ws rest : List Char} (hws : IsWhole ws)
    (hrest : ∀ c ∈ rest.head?, isDigit c = false) :
    wholeDigits? (ws ++ rest) = some (ws, rest) := by
  obtain ⟨hdigits, rfl | ⟨c, cs, rfl, hc⟩⟩ := hws
  · rfl
  · have hsplit := takeWhile_isDigit_append hdigits hrest
    have hdigit : isDigit c = true := hdigits c (by simp)
    rw [List.cons_append] at hsplit ⊢
    rw [wholeDigits?, if_neg hc, if_pos hdigit, hsplit.1, hsplit.2]

lemma fractionDigits_of_no_point {rest : List Char} (hrest : ∀ c ∈ rest.head?, c ≠ '.') :
    fractionDigits rest = ([], rest) := by
  unfold fractionDigits
  split
  · rename_i c cs
    exact absurd rfl (hrest '.' (by simp))
  · rfl

lemma fractionDigits_append {fs rest : List Char} (hfs : fs ≠ [])
    (hdigits : ∀ c ∈ fs, isDigit c = true) (hrest : ∀ c ∈ rest.head?, isDigit c = false) :
    fractionDigits ('.' :: (fs ++ rest)) = (fs, rest) := by
  obtain ⟨c, cs, rfl⟩ := List.exists_cons_of_ne_nil hfs
  have hsplit := takeWhile_isDigit_append hdigits hrest
  have hdigit : isDigit c = true := hdigits c (by simp)
  rw [List.cons_append] at hsplit ⊢
  rw [fractionDigits, if_pos hdigit, hsplit.1, hsplit.2]

lemma exponent?_of_no_mark {rest : List Char} (hrest : ∀ c ∈ rest.head?, c ≠ 'e' ∧ c ≠ 'E') :
    exponent? rest = none := by
  cases rest with
  | nil => rfl
  | cons c cs =>
    have hc := hrest c (by simp)
    simp [exponent?, hc.1, hc.2]

lemma exponent?_append {es rest : List Char} (hes : es ≠ [])
    (hdigits : ∀ c ∈ es, isDigit c = true) (hrest : ∀ c ∈ rest.head?, isDigit c = false)
    (negative : Bool) :
    exponent? ('e' :: (if negative then '-' else '+') :: (es ++ rest))
      = some (if negative then -(natOfDigits es : Int) else (natOfDigits es : Int), rest) := by
  have hsplit := takeWhile_isDigit_append hdigits hrest
  cases negative <;> simp [exponent?, hsplit.1, hsplit.2, hes]

/-! ## Numerals -/

variable {ws fs es rest : List Char}

/-- What may follow a value does not go on with a fraction. -/
lemma Follows.fractionDigits (h : Follows rest) : fractionDigits rest = ([], rest) := by
  apply fractionDigits_of_no_point
  intro c hc
  rcases h c hc with rfl | rfl | rfl | rfl <;> decide

/-- What may follow a value does not go on with an exponent. -/
lemma Follows.exponent? (h : Follows rest) : exponent? rest = none := by
  apply exponent?_of_no_mark
  intro c hc
  rcases h c hc with rfl | rfl | rfl | rfl <;> decide

/-- Digits alone are an integer, which may be too long. -/
lemma readUnsigned_whole (hws : IsWhole ws) (hrest : Follows rest) (negative : Bool) :
    readUnsigned negative (ws ++ rest)
      = some (if ws.length > integerDigitLimit then .error (.integerTooLong ws.length)
        else .ok (.int (if negative then -(natOfDigits ws : Int) else (natOfDigits ws : Int)),
          rest)) := by
  rw [readUnsigned, wholeDigits?_append hws hrest.not_isDigit]
  simp only [Option.map_some, hrest.fractionDigits, hrest.exponent?]

lemma readUnsigned_point (hws : IsWhole ws) (hfs : fs ≠ []) (hdigits : ∀ c ∈ fs, isDigit c = true)
    (hrest : Follows rest) (negative : Bool) :
    readUnsigned negative (ws ++ '.' :: (fs ++ rest))
      = some (.ok (.float (.ofDecimal negative ⟨natOfDigits (ws ++ fs), -fs.length⟩), rest)) := by
  have hpoint : ∀ c ∈ ('.' :: (fs ++ rest)).head?, isDigit c = false := by
    intro c hc
    simp only [List.head?_cons, Option.mem_def, Option.some.injEq] at hc
    subst hc
    decide
  obtain ⟨f, fs', rfl⟩ := List.exists_cons_of_ne_nil hfs
  rw [readUnsigned, wholeDigits?_append hws hpoint]
  simp only [Option.map_some, fractionDigits_append hfs hdigits hrest.not_isDigit,
    hrest.exponent?, Option.getD_none, Int.zero_sub]

/-- A fraction in front of an exponent, which may be missing. -/
def fractionText (fs : List Char) : List Char := if fs = [] then [] else '.' :: fs

lemma readUnsigned_exponent (hws : IsWhole ws) (hfs : ∀ c ∈ fs, isDigit c = true) (hes : es ≠ [])
    (hdigits : ∀ c ∈ es, isDigit c = true) (hrest : Follows rest) (negative below : Bool) :
    readUnsigned negative
        (ws ++ (fractionText fs ++ 'e' :: (if below then '-' else '+') :: (es ++ rest)))
      = some (.ok (.float (.ofDecimal negative ⟨natOfDigits (ws ++ fs),
          (if below then -(natOfDigits es : Int) else (natOfDigits es : Int)) - fs.length⟩),
          rest)) := by
  have hexp := exponent?_append hes hdigits hrest.not_isDigit below
  generalize hafter : 'e' :: (if below then '-' else '+') :: (es ++ rest) = after at hexp ⊢
  have hhead : ∀ c ∈ after.head?, c = 'e' := by
    intro c hc
    rw [← hafter] at hc
    simpa using hc.symm
  have hnodigit : ∀ c ∈ after.head?, isDigit c = false := by
    intro c hc
    rw [hhead c hc]
    decide
  by_cases hempty : fs = []
  · subst hempty
    have hpoint : fractionDigits after = ([], after) := by
      apply fractionDigits_of_no_point
      intro c hc
      rw [hhead c hc]
      decide
    rw [fractionText, if_pos rfl, List.nil_append, readUnsigned, wholeDigits?_append hws hnodigit]
    simp [hpoint, hexp]
  · have hpoint : ∀ c ∈ ('.' :: (fs ++ after)).head?, isDigit c = false := by
      intro c hc
      simp only [List.head?_cons, Option.mem_def, Option.some.injEq] at hc
      subst hc
      decide
    have hfraction := fractionDigits_append hempty hfs hnodigit
    obtain ⟨f, fs', rfl⟩ := List.exists_cons_of_ne_nil hempty
    rw [fractionText, if_neg hempty, List.cons_append, readUnsigned, wholeDigits?_append hws hpoint]
    simp only [Option.map_some, hfraction, hexp, Option.getD_some]

/-! ## Numerals set out by a layout -/

open Layout

variable {d : Decimal}

lemma padded_spec (width n : Nat) :
    padded width n ≠ [] ∧ (∀ c ∈ padded width n, isDigit c = true) ∧
      natOfDigits (padded width n) = n := by
  refine ⟨by simp [padded], ?_, ?_⟩
  · intro c hc
    simp only [padded, List.mem_append, List.mem_replicate] at hc
    rcases hc with ⟨-, rfl⟩ | hc
    · decide
    · exact isDigit_of_mem_toDigits hc
  · rw [padded, natOfDigits_zeros_append, natOfDigits_toDigits]

/-- A numeral with an exponent says what it was written for. -/
lemma readUnsigned_scientific (hd : 0 < d.digits) (layout : Layout) (hrest : Follows rest)
    (negative : Bool) :
    readUnsigned negative (scientific layout d ++ rest)
      = some (.ok (.float (.ofDecimal negative d), rest)) := by
  obtain ⟨hes, hesdigits, hesvalue⟩ := padded_spec layout.exponentWidth (leading d).natAbs
  obtain ⟨c, cs, hcons, hc⟩ := head_toDigits_ne_zero hd
  have hdigits : ∀ x ∈ c :: cs, isDigit x = true := fun x hx =>
    isDigit_of_mem_toDigits (n := d.digits) (hcons ▸ hx)
  have hwhole : IsWhole [c] := by
    refine ⟨fun x hx => ?_, .inr ⟨c, [], rfl, hc⟩⟩
    simp only [List.mem_singleton] at hx
    exact hx ▸ hdigits c (by simp)
  have htext : scientific layout d ++ rest
      = [c] ++ (fractionText cs ++ 'e' :: (if decide (leading d < 0) then '-' else '+')
        :: (padded layout.exponentWidth (leading d).natAbs ++ rest)) := by
    simp only [scientific, hcons, fractionText, decide_eq_true_eq]
    cases cs <;> simp
  have hvalue : natOfDigits ([c] ++ cs) = d.digits := by
    rw [List.singleton_append, ← hcons, natOfDigits_toDigits]
  have hleading : leading d = d.exponent + cs.length := by
    rw [leading, digitCount, hcons, List.length_cons]
    omega
  have hexponent : (if decide (leading d < 0) = true then -((leading d).natAbs : Int)
      else ((leading d).natAbs : Int)) - cs.length = d.exponent := by
    split <;> simp only [decide_eq_true_eq] at * <;> omega
  rw [htext,
    readUnsigned_exponent hwhole (fun x hx => hdigits x (by simp [hx])) hes hesdigits hrest,
    hvalue, hesvalue, hexponent]

lemma isDigit_of_mem_zeros {n : Nat} {c : Char} (h : c ∈ List.replicate n '0') :
    isDigit c = true := by
  rw [(List.mem_replicate.1 h).2]
  decide

/-- An integer is written with its zeros and with the zero after the point, which are more than was
written for. -/
lemma readUnsigned_zeros_behind (hd : 0 < d.digits) (hstripped : d.IsStripped)
    (hrest : Follows rest) (negative : Bool) {e : Nat} (he : d.exponent = e) :
    readUnsigned negative
        (Nat.toDigits 10 d.digits ++ List.replicate e '0' ++ '.' :: (['0'] ++ rest))
      = some (.ok (.float (.ofDecimal negative d), rest)) := by
  have hzeros : ∀ c ∈ Nat.toDigits 10 d.digits ++ List.replicate e '0', isDigit c = true :=
    fun c hc => (List.mem_append.1 hc).elim isDigit_of_mem_toDigits isDigit_of_mem_zeros
  have hvalue : natOfDigits (Nat.toDigits 10 d.digits ++ List.replicate e '0' ++ ['0'])
      = d.digits * 10 ^ (e + 1) := by
    rw [natOfDigits_append, natOfDigits_append, natOfDigits_replicate_zero, natOfDigits_toDigits]
    simp [natOfDigits]
    ring
  have hexponent : d.exponent - ((e + 1 : Nat) : Int) = -((['0'].length : Nat) : Int) := by
    simp
    omega
  have hread := readUnsigned_point (isWhole_append (head_toDigits_ne_zero hd) hzeros) zero_ne_nil
    isDigit_of_mem_zero hrest negative
  rw [hvalue, ← hexponent, Double.ofDecimal_shift hd hstripped (e + 1) negative] at hread
  exact hread

lemma readUnsigned_point_among (hd : 0 < d.digits) (hrest : Follows rest) (negative : Bool)
    {k : Nat}
    (hk : d.exponent + digitCount d.digits = k) (hpos : 0 < k) (hneg : d.exponent < 0) :
    readUnsigned negative
        ((Nat.toDigits 10 d.digits).take k ++ '.' :: ((Nat.toDigits 10 d.digits).drop k ++ rest))
      = some (.ok (.float (.ofDecimal negative d), rest)) := by
  have hcount : (Nat.toDigits 10 d.digits).length = digitCount d.digits := rfl
  have hdigits : ∀ c ∈ Nat.toDigits 10 d.digits, isDigit c = true := fun c hc =>
    isDigit_of_mem_toDigits hc
  have hwhole : IsWhole ((Nat.toDigits 10 d.digits).take k) := by
    obtain ⟨c, cs, hcons, hc⟩ := head_toDigits_ne_zero hd
    obtain ⟨j, rfl⟩ : ∃ j, k = j + 1 := ⟨k - 1, by omega⟩
    refine ⟨fun x hx => hdigits x (List.mem_of_mem_take hx), .inr ⟨c, cs.take j, ?_, hc⟩⟩
    rw [hcons, List.take_succ_cons]
  have hafter : (Nat.toDigits 10 d.digits).drop k ≠ [] := by
    rw [ne_eq, List.drop_eq_nil_iff]
    omega
  have hexponent : -(((Nat.toDigits 10 d.digits).drop k).length : Int) = d.exponent := by
    rw [List.length_drop]
    omega
  have hread :=
    readUnsigned_point hwhole hafter (fun c hc => hdigits c (List.mem_of_mem_drop hc)) hrest
    negative
  rw [List.take_append_drop, natOfDigits_toDigits, hexponent] at hread
  exact hread

lemma readUnsigned_zeros_before (hd : 0 < d.digits) (hrest : Follows rest) (negative : Bool)
    {k : Nat}
    (hk : d.exponent + digitCount d.digits = -k) :
    readUnsigned negative
        (['0'] ++ '.' :: (List.replicate k '0' ++ Nat.toDigits 10 d.digits ++ rest))
      = some (.ok (.float (.ofDecimal negative d), rest)) := by
  have hcount : (Nat.toDigits 10 d.digits).length = digitCount d.digits := rfl
  have hwhole : IsWhole ['0'] := ⟨isDigit_of_mem_zero, .inl rfl⟩
  have hdigits : ∀ c ∈ List.replicate k '0' ++ Nat.toDigits 10 d.digits, isDigit c = true :=
    fun c hc => (List.mem_append.1 hc).elim isDigit_of_mem_zeros isDigit_of_mem_toDigits
  have hne : List.replicate k '0' ++ Nat.toDigits 10 d.digits ≠ [] := by
    obtain ⟨c, cs, hcons, -⟩ := head_toDigits_ne_zero hd
    simp [hcons]
  have hvalue :
      natOfDigits (['0'] ++ (List.replicate k '0' ++ Nat.toDigits 10 d.digits)) = d.digits := by
    rw [natOfDigits_append, natOfDigits_zeros_append, natOfDigits_toDigits]
    simp [natOfDigits]
  have hexponent :
      -((List.replicate k '0' ++ Nat.toDigits 10 d.digits).length : Int) = d.exponent := by
    simp only [List.length_append, List.length_replicate]
    omega
  have hread := readUnsigned_point hwhole hne hdigits hrest negative
  rw [hvalue, hexponent] at hread
  exact hread

/-- A numeral written out in full says what it was written for. -/
lemma readUnsigned_positional (hd : 0 < d.digits) (hstripped : d.IsStripped)
    (hrest : Follows rest) (negative : Bool) :
    readUnsigned negative (positional d ++ rest)
      = some (.ok (.float (.ofDecimal negative d), rest)) := by
  have hleading : leading d + 1 = d.exponent + digitCount d.digits := by
    rw [leading]
    omega
  simp only [positional, hleading]
  split
  · have hread := readUnsigned_zeros_behind hd hstripped hrest negative (e := d.exponent.toNat)
      (by omega)
    simpa using hread
  · split
    · have hread := readUnsigned_point_among hd hrest negative
        (k := (d.exponent + digitCount d.digits).toNat) (by omega) (by omega) (by omega)
      simpa using hread
    · have hread := readUnsigned_zeros_before hd hrest negative
        (k := (-(d.exponent + digitCount d.digits)).toNat) (by omega)
      simpa using hread

lemma readUnsigned_zero (hrest : Follows rest) (negative : Bool) :
    readUnsigned negative ('0' :: '.' :: '0' :: rest)
      = some (.ok (.float (.ofRank negative 0), rest)) := by
  have hwhole : IsWhole ['0'] := ⟨by simp [isDigit_zero], .inl rfl⟩
  have hread := readUnsigned_point hwhole zero_ne_nil isDigit_of_mem_zero hrest negative
  rw [Double.ofDecimal_zero (by rfl)] at hread
  exact hread

/-! ## Numbers -/

/-- A text begins like a number: with a digit, or with a minus and a digit. -/
def BeginsNumber (cs : List Char) : Prop :=
  ∃ c ds, isDigit c = true ∧ (cs = c :: ds ∨ cs = '-' :: c :: ds)

lemma BeginsNumber.append {cs : List Char} (h : BeginsNumber cs) (rest : List Char) :
    BeginsNumber (cs ++ rest) := by
  obtain ⟨c, ds, hc, rfl | rfl⟩ := h
  · exact ⟨c, ds ++ rest, hc, .inl rfl⟩
  · exact ⟨c, ds ++ rest, hc, .inr rfl⟩

lemma readNumber?_of_isDigit {c : Char} (hc : isDigit c = true) (cs : List Char) :
    readNumber? (c :: cs) = readUnsigned false (c :: cs) := by
  unfold readNumber?
  split
  · rename_i h
    obtain ⟨rfl, -⟩ := List.cons.inj h
    exact absurd hc (by decide)
  · rfl

lemma beginsNumber_intChars (n : Int) : BeginsNumber (intChars n) := by
  obtain ⟨c, ds, hcons⟩ :=
    List.exists_cons_of_ne_nil (Nat.toDigits_ne_nil (n := n.natAbs) (b := 10))
  have hc : isDigit c = true := isDigit_of_mem_toDigits (n := n.natAbs) (by rw [hcons]; simp)
  refine ⟨c, ds, hc, ?_⟩
  rw [intChars, hcons]
  split
  · exact .inr rfl
  · exact .inl rfl

/-- An integer is read back, unless it is too long. -/
lemma readNumber?_intChars_eq (n : Int) (hrest : Follows rest) :
    readNumber? (intChars n ++ rest)
      = some (if digitCount n.natAbs > integerDigitLimit
        then .error (.integerTooLong (digitCount n.natAbs)) else .ok (.int n, rest)) := by
  have hread := readUnsigned_whole (isWhole_toDigits n.natAbs) hrest
  simp only [natOfDigits_toDigits] at hread
  by_cases hneg : n < 0
  · have habs : -(n.natAbs : Int) = n := by omega
    have htrue := hread true
    rw [if_pos rfl, habs] at htrue
    rw [intChars, if_pos hneg]
    exact htrue
  · have habs : (n.natAbs : Int) = n := by omega
    have hfalse := hread false
    rw [if_neg Bool.false_ne_true, habs] at hfalse
    obtain ⟨c, ds, hcons⟩ :=
      List.exists_cons_of_ne_nil (Nat.toDigits_ne_nil (n := n.natAbs) (b := 10))
    have hc : isDigit c = true := isDigit_of_mem_toDigits (n := n.natAbs) (by rw [hcons]; simp)
    rw [intChars, if_neg hneg, digitCount]
    rw [hcons, List.cons_append] at hfalse ⊢
    rw [readNumber?_of_isDigit hc, hfalse]

/-- An integer that is not too long is read back. -/
theorem readNumber?_intChars {n : Int} (hn : digitCount n.natAbs ≤ integerDigitLimit)
    (hrest : Follows rest) :
    readNumber? (intChars n ++ rest) = some (.ok (.int n, rest)) := by
  rw [readNumber?_intChars_eq n hrest, if_neg (Nat.not_lt.2 hn)]

lemma isDigit_head_positional {d : Decimal} :
    ∃ c cs, positional d = c :: cs ∧ isDigit c = true := by
  obtain ⟨c, ds, hcons⟩ :=
    List.exists_cons_of_ne_nil (Nat.toDigits_ne_nil (n := d.digits) (b := 10))
  have hc : isDigit c = true := isDigit_of_mem_toDigits (n := d.digits) (by rw [hcons]; simp)
  simp only [positional, hcons]
  split
  · exact ⟨c, _, rfl, hc⟩
  · split
    · rename_i hbefore
      obtain ⟨k, hk⟩ : ∃ k, (leading d + 1).toNat = k + 1 := ⟨(leading d + 1).toNat - 1, by omega⟩
      rw [hk]
      exact ⟨c, _, rfl, hc⟩
    · exact ⟨'0', _, rfl, isDigit_zero⟩

lemma isDigit_head_scientific {d : Decimal} (layout : Layout) :
    ∃ c cs, scientific layout d = c :: cs ∧ isDigit c = true := by
  obtain ⟨c, ds, hcons⟩ :=
    List.exists_cons_of_ne_nil (Nat.toDigits_ne_nil (n := d.digits) (b := 10))
  have hc : isDigit c = true := isDigit_of_mem_toDigits (n := d.digits) (by rw [hcons]; simp)
  simp only [scientific, hcons]
  cases ds with
  | nil => exact ⟨c, _, rfl, hc⟩
  | cons d' ds' => exact ⟨c, _, rfl, hc⟩

/-- What a layout writes for a double is its sign and a numeral that is read back as the double. -/
lemma write_eq_sign_append (layout : Layout) (x : FiniteDouble) (hrest : Follows rest) :
    ∃ c cs, isDigit c = true ∧
      layout.write x = (if x.negative then '-' :: c :: cs else c :: cs) ∧
      readUnsigned x.negative (c :: cs ++ rest) = some (.ok (.float (.finite x), rest)) := by
  by_cases hrank : x.rank = 0
  · obtain ⟨negative, rank, hlt⟩ := x
    subst hrank
    refine ⟨'0', ['.', '0'], isDigit_zero, by simp [Layout.write], ?_⟩
    have hread := readUnsigned_zero hrest negative
    rw [Double.ofRank_of_lt hlt negative] at hread
    exact hread
  · have hd := x.shortest_digits_pos hrank
    have hdenotes := x.ofDecimal_shortest
    by_cases hfull : layout.least ≤ leading x.shortest ∧ leading x.shortest ≤ layout.greatest
    · obtain ⟨c, cs, hcons, hc⟩ := isDigit_head_positional (d := x.shortest)
      have hread := readUnsigned_positional hd x.isStripped_shortest hrest x.negative
      rw [hcons, hdenotes] at hread
      exact ⟨c, cs, hc, by simp [Layout.write, hrank, hfull, hcons], hread⟩
    · obtain ⟨c, cs, hcons, hc⟩ := isDigit_head_scientific (d := x.shortest) layout
      have hread := readUnsigned_scientific hd layout hrest x.negative
      rw [hcons, hdenotes] at hread
      exact ⟨c, cs, hc, by simp [Layout.write, hrank, hfull, hcons], hread⟩

lemma beginsNumber_write (layout : Layout) (x : FiniteDouble) :
    BeginsNumber (layout.write x) := by
  obtain ⟨c, cs, hc, hwrite, -⟩ := write_eq_sign_append layout x follows_nil
  refine ⟨c, cs, hc, ?_⟩
  rw [hwrite]
  split
  · exact .inr rfl
  · exact .inl rfl

/-- Every layout writes a double so that it is read back. -/
theorem readNumber?_write (layout : Layout) (x : FiniteDouble) (hrest : Follows rest) :
    readNumber? (layout.write x ++ rest) = some (.ok (.float (.finite x), rest)) := by
  obtain ⟨c, cs, hc, hwrite, hread⟩ := write_eq_sign_append layout x hrest
  rw [hwrite]
  cases hneg : x.negative with
  | true =>
    rw [hneg] at hread
    exact hread
  | false =>
    rw [hneg] at hread
    exact (readNumber?_of_isDigit hc _).trans hread

/-! ## The characters of a number -/

lemma le_toNat_of_isDigit {c : Char} (h : isDigit c = true) : 0x20 ≤ c.toNat := by
  have hc := (isDigit_iff c).1 h
  omega

lemma le_toNat_of_mem_toDigits {n : Nat} {c : Char} (h : c ∈ Nat.toDigits 10 n) :
    0x20 ≤ c.toNat := le_toNat_of_isDigit (isDigit_of_mem_toDigits h)

lemma le_toNat_of_mem_zeros {n : Nat} {c : Char} (h : c ∈ List.replicate n '0') :
    0x20 ≤ c.toNat := le_toNat_of_isDigit (isDigit_of_mem_zeros h)

lemma mem_intChars {n : Int} {c : Char} (h : c ∈ intChars n) : c = '-' ∨ isDigit c = true := by
  rw [intChars] at h
  split at h
  · exact (List.mem_cons.1 h).imp_right isDigit_of_mem_toDigits
  · exact .inr (isDigit_of_mem_toDigits h)

lemma le_toNat_of_mem_intChars {n : Int} {c : Char} (h : c ∈ intChars n) : 0x20 ≤ c.toNat := by
  rcases mem_intChars h with rfl | h
  · decide
  · exact le_toNat_of_isDigit h

lemma le_toNat_of_mem_positional {c : Char} (h : c ∈ positional d) : 0x20 ≤ c.toNat := by
  simp only [positional] at h
  split_ifs at h
  · simp only [List.mem_append, List.mem_cons, List.not_mem_nil, or_false] at h
    rcases h with (h | h) | rfl | rfl
    · exact le_toNat_of_mem_toDigits h
    · exact le_toNat_of_mem_zeros h
    · decide
    · decide
  · rcases List.mem_append.1 h with h | h
    · exact le_toNat_of_mem_toDigits (List.mem_of_mem_take h)
    · rcases List.mem_cons.1 h with rfl | h
      · decide
      · exact le_toNat_of_mem_toDigits (List.mem_of_mem_drop h)
  · simp only [List.mem_cons, List.mem_append, List.cons_append] at h
    rcases h with rfl | rfl | h | h
    · decide
    · decide
    · exact le_toNat_of_mem_zeros h
    · exact le_toNat_of_mem_toDigits h

lemma le_toNat_of_mem_scientific {layout : Layout} {c : Char} (h : c ∈ layout.scientific d) :
    0x20 ≤ c.toNat := by
  have hdigits : ∀ x ∈ Nat.toDigits 10 d.digits, 0x20 ≤ x.toNat := fun x hx =>
    le_toNat_of_mem_toDigits hx
  simp only [scientific, List.mem_append, List.mem_cons] at h
  rcases h with h | rfl | rfl | h
  · split at h
    · rename_i first hone
      exact hdigits c (hone ▸ h)
    · rename_i first rest _ hmore
      rw [hmore] at hdigits
      rcases List.mem_cons.1 h with rfl | h
      · exact hdigits c List.mem_cons_self
      · rcases List.mem_cons.1 h with rfl | h
        · decide
        · exact hdigits c (List.mem_cons_of_mem first h)
    · cases h
  · decide
  · split <;> decide
  · exact le_toNat_of_isDigit ((padded_spec _ _).2.1 c h)

lemma le_toNat_of_mem_write {layout : Layout} {x : FiniteDouble} {c : Char}
    (h : c ∈ layout.write x) : 0x20 ≤ c.toNat := by
  have hmagnitude {cs : List Char} (hcs : c ∈ if x.negative then '-' :: cs else cs)
      (hmem : c ∈ cs → 0x20 ≤ c.toNat) : 0x20 ≤ c.toNat := by
    split at hcs
    · rcases List.mem_cons.1 hcs with rfl | hcs
      · decide
      · exact hmem hcs
    · exact hmem hcs
  refine hmagnitude h fun hc => ?_
  split_ifs at hc
  · simp only [List.mem_cons, List.not_mem_nil, or_false] at hc
    rcases hc with rfl | rfl | rfl <;> decide
  · dsimp only at hc
    split_ifs at hc
    · exact le_toNat_of_mem_positional hc
    · exact le_toNat_of_mem_scientific hc

end Shortlist.Json
