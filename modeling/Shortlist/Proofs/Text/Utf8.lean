import Shortlist.Proofs.Text.Characters

/-!
# Bytes of texts

The bytes of characters are decoded to the characters again (`decodeUtf8_encodeUtf8`), also after
bytes that are well formed (`decodeUtf8_append`).

A character has one to four bytes, by its size, and the decoder goes by the first one.  For each of
the four lengths there is one lemma that says which bytes it takes, and one that says that the bytes
of a character of this length are such; everything else is induction over the characters.  That the
second law asks for well-formed bytes cannot be helped: where the bytes before break off in the
middle of a character, those that are added would be taken for the rest of it.
-/

namespace Shortlist.Text

namespace Utf8Text

@[simp]
lemma push_chars (c : Char) (width : Nat) (t : Utf8Text) :
    (t.push c width).chars = c :: t.chars := rfl

@[simp]
lemma push_fault_eq_none {c : Char} {width : Nat} {t : Utf8Text} :
    (t.push c width).fault = none ↔ t.fault = none := Option.map_eq_none_iff

end Utf8Text

/-! ## Well-formed bytes -/

/-- What stands after well-formed bytes is decoded as it is on its own. -/
theorem decodeUtf8_append {bytes : Bytes} (more : Bytes) (h : (decodeUtf8 bytes).fault = none) :
    (decodeUtf8 (bytes ++ more)).chars = (decodeUtf8 bytes).chars ++ (decodeUtf8 more).chars
      ∧ ((decodeUtf8 (bytes ++ more)).fault = none ↔ (decodeUtf8 more).fault = none) := by
  fun_induction decodeUtf8 bytes with
  | case1 => simp
  | case2 a r ha ih =>
    rw [List.cons_append, decodeUtf8.eq_def]
    simpa [ha] using ih (Utf8Text.push_fault_eq_none.1 h)
  | case5 a ha₁ ha₂ ha₃ b r hb ih =>
    rw [List.cons_append, List.cons_append, decodeUtf8.eq_def]
    simpa [ha₁, ha₂, ha₃, hb] using ih (Utf8Text.push_fault_eq_none.1 h)
  | case9 a ha₁ ha₂ ha₃ ha₄ b hb c r hc ih =>
    rw [List.cons_append, List.cons_append, List.cons_append, decodeUtf8.eq_def]
    simpa [ha₁, ha₂, ha₃, ha₄, hb, hc] using ih (Utf8Text.push_fault_eq_none.1 h)
  | case15 a ha₁ ha₂ ha₃ ha₄ ha₅ b hb c hc d r hd ih =>
    rw [List.cons_append, List.cons_append, List.cons_append, List.cons_append, decodeUtf8.eq_def]
    simpa [ha₁, ha₂, ha₃, ha₄, ha₅, hb, hc, hd] using ih (Utf8Text.push_fault_eq_none.1 h)
  | _ => cases h

/-! ## The bytes of a character -/

variable {a b c d : UInt8} {r : Bytes}

lemma isContinuation_iff : isContinuation b = true ↔ 0x80 ≤ b.toNat ∧ b.toNat < 0xC0 := by
  simp [isContinuation, UInt8.le_iff_toNat_le, UInt8.lt_iff_toNat_lt]

lemma decodeUtf8_one (ha : a.toNat < 0x80) :
    decodeUtf8 (a :: r) = (decodeUtf8 r).push (Char.ofNat a.toNat) 1 := by
  rw [decodeUtf8.eq_def]
  simp [UInt8.lt_iff_toNat_lt, ha]

lemma decodeUtf8_two (ha : 0xC2 ≤ a.toNat ∧ a.toNat < 0xE0) (hb : isContinuation b = true) :
    decodeUtf8 (a :: b :: r) = (decodeUtf8 r).push (charOfBits (a.toNat - 0xC0) [b]) 2 := by
  have h₁ : ¬a < 0x80 := by simp [UInt8.lt_iff_toNat_lt]; omega
  have h₂ : ¬a < 0xC2 := by simp [UInt8.lt_iff_toNat_lt]; omega
  have h₃ : a < 0xE0 := by simp [UInt8.lt_iff_toNat_lt]; omega
  rw [decodeUtf8.eq_def]
  simp [h₁, h₂, h₃, hb]

lemma decodeUtf8_three (ha : 0xE0 ≤ a.toNat ∧ a.toNat < 0xF0) (hb : mayFollow a b = true)
    (hc : isContinuation c = true) :
    decodeUtf8 (a :: b :: c :: r)
      = (decodeUtf8 r).push (charOfBits (a.toNat - 0xE0) [b, c]) 3 := by
  have h₁ : ¬a < 0x80 := by simp [UInt8.lt_iff_toNat_lt]; omega
  have h₂ : ¬a < 0xC2 := by simp [UInt8.lt_iff_toNat_lt]; omega
  have h₃ : ¬a < 0xE0 := by simp [UInt8.lt_iff_toNat_lt]; omega
  have h₄ : a < 0xF0 := by simp [UInt8.lt_iff_toNat_lt]; omega
  rw [decodeUtf8.eq_def]
  simp [h₁, h₂, h₃, h₄, hb, hc]

lemma decodeUtf8_four (ha : 0xF0 ≤ a.toNat ∧ a.toNat < 0xF5) (hb : mayFollow a b = true)
    (hc : isContinuation c = true) (hd : isContinuation d = true) :
    decodeUtf8 (a :: b :: c :: d :: r)
      = (decodeUtf8 r).push (charOfBits (a.toNat - 0xF0) [b, c, d]) 4 := by
  have h₁ : ¬a < 0x80 := by simp [UInt8.lt_iff_toNat_lt]; omega
  have h₂ : ¬a < 0xC2 := by simp [UInt8.lt_iff_toNat_lt]; omega
  have h₃ : ¬a < 0xE0 := by simp [UInt8.lt_iff_toNat_lt]; omega
  have h₄ : ¬a < 0xF0 := by simp [UInt8.lt_iff_toNat_lt]; omega
  have h₅ : a < 0xF5 := by simp [UInt8.lt_iff_toNat_lt]; omega
  rw [decodeUtf8.eq_def]
  simp [h₁, h₂, h₃, h₄, h₅, hb, hc, hd]

/-- The second byte, by the ranges of the standard. -/
lemma mayFollow_of (hb : isContinuation b = true) (hlow : a.toNat = 0xE0 → 0xA0 ≤ b.toNat)
    (hsurrogate : a.toNat = 0xED → b.toNat < 0xA0) (hplane : a.toNat = 0xF0 → 0x90 ≤ b.toNat)
    (hhigh : a.toNat = 0xF4 → b.toNat < 0x90) : mayFollow a b = true := by
  simp only [mayFollow, hb, Bool.true_and, ← UInt8.toNat_inj]
  split
  · simpa [UInt8.le_iff_toNat_le] using hlow ‹_›
  split
  · simpa [UInt8.lt_iff_toNat_lt] using hsurrogate ‹_›
  split
  · simpa [UInt8.le_iff_toNat_le] using hplane ‹_›
  split
  · simpa [UInt8.lt_iff_toNat_lt] using hhigh ‹_›
  · rfl

lemma toNat_byte {n : Nat} (hn : n < 256) : (UInt8.ofNat n).toNat = n :=
  UInt8.toNat_ofNat_of_lt' hn

lemma isContinuation_byte (n : Nat) : isContinuation (.ofNat (n % 0x40 + 0x80)) = true := by
  rw [isContinuation_iff, toNat_byte (by omega)]
  omega

lemma decodeUtf8_two_of_lt {n : Nat} (h : 0x80 ≤ n ∧ n < 0x800) (r : Bytes) :
    decodeUtf8 (.ofNat (n / 64 % 0x20 + 0xC0) :: .ofNat (n % 0x40 + 0x80) :: r)
      = (decodeUtf8 r).push (Char.ofNat n) 2 := by
  have ha := toNat_byte (show n / 64 % 0x20 + 0xC0 < 256 by omega)
  have hb := toNat_byte (show n % 0x40 + 0x80 < 256 by omega)
  have hbits : n / 64 % 0x20 * 64 + n % 0x40 = n := by omega
  rw [decodeUtf8_two (by omega) (isContinuation_byte n), charOfBits]
  simp only [List.foldl_cons, List.foldl_nil, ha, hb, Nat.add_sub_cancel, hbits]

lemma decodeUtf8_three_of_lt {n : Nat} (h : 0x800 ≤ n ∧ n < 0x10000)
    (hsurrogate : n < 0xD800 ∨ 0xDFFF < n) (r : Bytes) :
    decodeUtf8 (.ofNat (n / 4096 % 0x10 + 0xE0) :: .ofNat (n / 64 % 0x40 + 0x80)
        :: .ofNat (n % 0x40 + 0x80) :: r)
      = (decodeUtf8 r).push (Char.ofNat n) 3 := by
  have ha := toNat_byte (show n / 4096 % 0x10 + 0xE0 < 256 by omega)
  have hb := toNat_byte (show n / 64 % 0x40 + 0x80 < 256 by omega)
  have hc := toNat_byte (show n % 0x40 + 0x80 < 256 by omega)
  have hbits : (n / 4096 % 0x10 * 64 + n / 64 % 0x40) * 64 + n % 0x40 = n := by omega
  have hsecond :
      mayFollow (.ofNat (n / 4096 % 0x10 + 0xE0)) (.ofNat (n / 64 % 0x40 + 0x80)) = true := by
    apply mayFollow_of (isContinuation_byte _) <;> omega
  rw [decodeUtf8_three (by omega) hsecond (isContinuation_byte n), charOfBits]
  simp only [List.foldl_cons, List.foldl_nil, ha, hb, hc, Nat.add_sub_cancel, hbits]

lemma decodeUtf8_four_of_lt {n : Nat} (h : 0x10000 ≤ n ∧ n < 0x110000) (r : Bytes) :
    decodeUtf8 (.ofNat (n / 262144 % 0x08 + 0xF0) :: .ofNat (n / 4096 % 0x40 + 0x80)
        :: .ofNat (n / 64 % 0x40 + 0x80) :: .ofNat (n % 0x40 + 0x80) :: r)
      = (decodeUtf8 r).push (Char.ofNat n) 4 := by
  have ha := toNat_byte (show n / 262144 % 0x08 + 0xF0 < 256 by omega)
  have hb := toNat_byte (show n / 4096 % 0x40 + 0x80 < 256 by omega)
  have hc := toNat_byte (show n / 64 % 0x40 + 0x80 < 256 by omega)
  have hd := toNat_byte (show n % 0x40 + 0x80 < 256 by omega)
  have hbits : ((n / 262144 % 0x08 * 64 + n / 4096 % 0x40) * 64 + n / 64 % 0x40) * 64 + n % 0x40
      = n := by omega
  have hsecond : mayFollow (.ofNat (n / 262144 % 0x08 + 0xF0)) (.ofNat (n / 4096 % 0x40 + 0x80))
      = true := by
    apply mayFollow_of (isContinuation_byte _) <;> omega
  rw [decodeUtf8_four (by omega) hsecond (isContinuation_byte _) (isContinuation_byte n),
    charOfBits]
  simp only [List.foldl_cons, List.foldl_nil, ha, hb, hc, hd, Nat.add_sub_cancel, hbits]

/-- The bytes of a character are decoded to it. -/
lemma decodeUtf8_char (c : Char) (r : Bytes) :
    ∃ width, decodeUtf8 (String.utf8EncodeChar c ++ r) = (decodeUtf8 r).push c width := by
  have hvalid : c.toNat < 0xD800 ∨ 0xDFFF < c.toNat ∧ c.toNat < 0x110000 := c.valid
  have hchar := Char.ofNat_toNat c
  have hval : c.val.toNat = c.toNat := rfl
  simp only [String.utf8EncodeChar, hval]
  split
  · refine ⟨1, ?_⟩
    have hbyte : (UInt8.ofNat c.toNat).toNat = c.toNat := toNat_byte (by omega)
    rw [List.singleton_append, decodeUtf8_one (by omega), hbyte, hchar]
  split
  · exact ⟨2, (decodeUtf8_two_of_lt (by omega) r).trans (by rw [hchar])⟩
  split
  · exact ⟨3, (decodeUtf8_three_of_lt (by omega) (by omega) r).trans (by rw [hchar])⟩
  · exact ⟨4, (decodeUtf8_four_of_lt (by omega) r).trans (by rw [hchar])⟩

lemma encodeUtf8_append (cs ds : List Char) :
    encodeUtf8 (cs ++ ds) = encodeUtf8 cs ++ encodeUtf8 ds :=
  List.flatMap_append

theorem decodeUtf8_encodeUtf8 (cs : List Char) : decodeUtf8 (encodeUtf8 cs) = ⟨cs, none⟩ := by
  induction cs with
  | nil => rfl
  | cons c cs ih =>
    obtain ⟨width, h⟩ := decodeUtf8_char c (encodeUtf8 cs)
    rw [encodeUtf8, List.flatMap_cons]
    rw [encodeUtf8] at h ih
    rw [h, ih]
    rfl

end Shortlist.Text
