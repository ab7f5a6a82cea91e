import Shortlist.Json.Reader
import Shortlist.Json.Writer
import Shortlist.Proofs.Text.Characters

/-!
# Strings in JSON texts

A string of characters that is written is read back, whatever follows its closing quote
(`readString_escaped`).  A character stands in the string in one of three ways, each of which the
reader takes in one step: see `escapePoint_ofChar`.
-/

namespace Shortlist.Json

open CodePoint (chars ofChar)

lemma codeUnit?_of_map {ds : List Char} {w x y z : Nat}
    (h : ds.map hexValue? = [some w, some x, some y, some z]) (c : Char) (rest : List Char) :
    codeUnit? (ds ++ c :: rest) = some (((w * 16 + x) * 16 + y) * 16 + z, c :: rest) := by
  simp only [List.map_eq_cons_iff, List.map_eq_nil_iff] at h
  obtain ⟨d₁, _, rfl, h₁, d₂, _, rfl, h₂, d₃, _, rfl, h₃, d₄, _, rfl, h₄, rfl⟩ := h
  simp [codeUnit?, h₁, h₂, h₃, h₄]

lemma hexValue?_hexDigits : ∀ n < 0x20,
    (Text.hexDigits 4 n).map hexValue? = [some 0, some 0, some (n / 16), some (n % 16)] := by
  decide

/-- A control character is read back from its code. -/
lemma readUnicodeEscape_hexDigits {c : Char} (hc : c.toNat < 0x20) (left : Nat) (next : Char)
    (rest : List Char) :
    readUnicodeEscape left (Text.hexDigits 4 c.toNat ++ next :: rest)
      = .ok (ofChar c, next :: rest) := by
  have hunit := codeUnit?_of_map (hexValue?_hexDigits c.toNat hc) next rest
  have hvalue : ((0 * 16 + 0) * 16 + c.toNat / 16) * 16 + c.toNat % 16 = c.toNat := by omega
  have hlow : isHighSurrogate c.toNat = false := by
    simp only [isHighSurrogate, Bool.and_eq_false_iff, decide_eq_false_iff_not]
    omega
  have hpoint : CodePoint.ofNat c.toNat = ofChar c := dif_pos (ofChar c).value_lt
  rw [hvalue] at hunit
  simp only [readUnicodeEscape, hunit, hlow, hpoint, Bool.false_and, Bool.false_eq_true, if_false]

lemma le_toNat_of_mem_hexDigits :
    ∀ n < 0x20, (Text.hexDigits 4 n).all (fun c => 0x20 ≤ c.toNat) = true := by
  decide

/-- How a character stands inside a string: by a letter after a backslash, by its code, or for
itself. -/
theorem escapePoint_ofChar (c : Char) :
    (∃ e, 0x20 ≤ e.toNat ∧ e ≠ 'u' ∧ simpleEscape? e = some c
        ∧ escapePoint (ofChar c) = ['\\', e].map ofChar)
      ∨ (c.toNat < 0x20
        ∧ escapePoint (ofChar c) = ('\\' :: 'u' :: Text.hexDigits 4 c.toNat).map ofChar)
      ∨ (0x20 ≤ c.toNat ∧ c ≠ '"' ∧ c ≠ '\\' ∧ escapePoint (ofChar c) = [c].map ofChar) := by
  have hne {d : Char} (h : c ≠ d) : ofChar c ≠ ofChar d := fun heq =>
    h (CodePoint.ofChar_injective heq)
  by_cases h₁ : c = '"'
  · exact .inl ⟨'"', by subst h₁; decide⟩
  by_cases h₂ : c = '\\'
  · exact .inl ⟨'\\', by subst h₂; decide⟩
  by_cases h₃ : c = '\n'
  · exact .inl ⟨'n', by subst h₃; decide⟩
  by_cases h₄ : c = '\r'
  · exact .inl ⟨'r', by subst h₄; decide⟩
  by_cases h₅ : c = '\t'
  · exact .inl ⟨'t', by subst h₅; decide⟩
  by_cases h₆ : c = '\x08'
  · exact .inl ⟨'b', by subst h₆; decide⟩
  by_cases h₇ : c = '\x0c'
  · exact .inl ⟨'f', by subst h₇; decide⟩
  have hself : escapePoint (ofChar c)
      = if c.toNat < 0x20 then word "\\u" ++ (Text.hexDigits 4 c.toNat).map ofChar
        else [ofChar c] := by
    simp only [escapePoint, hne h₁, hne h₂, hne h₃, hne h₄, hne h₅, hne h₆, hne h₇, if_false]
    rfl
  by_cases hc : c.toNat < 0x20
  · exact .inr (.inl ⟨hc, hself.trans (if_pos hc)⟩)
  · exact .inr (.inr ⟨by omega, h₁, h₂, hself.trans (if_neg hc)⟩)

/-- A character inside a string is read back in one step. -/
lemma readString_escapePoint (start fuel : Nat) (c next : Char) (rest : List Char) :
    readString start (fuel + 1) (chars (escapePoint (ofChar c)) ++ next :: rest)
      = (readString start fuel (next :: rest)).map fun (ps, rest) => (ofChar c :: ps, rest) := by
  rcases escapePoint_ofChar c with ⟨e, -, he, hescape, h⟩ | ⟨hc, h⟩ | ⟨hc, h₁, h₂, h⟩
  · rw [h, CodePoint.chars_map_ofChar]
    simp [readString, he, hescape]
  · rw [h, CodePoint.chars_map_ofChar]
    simp [readString, readUnicodeEscape_hexDigits hc, Except.bind]
  · have hctl : ¬c.toNat < 0x20 := by omega
    rw [h, CodePoint.chars_map_ofChar, List.singleton_append, readString, if_neg h₁, if_neg hctl,
      if_neg h₂]

/-- The characters of a string, from after its opening quote to in front of its closing one. -/
def escaped (cs : List Char) : List Char := chars ((cs.map ofChar).flatMap escapePoint)

lemma escaped_cons (c : Char) (cs : List Char) :
    escaped (c :: cs) = chars (escapePoint (ofChar c)) ++ escaped cs := by
  rw [escaped, List.map_cons, List.flatMap_cons, CodePoint.chars_append, escaped]

lemma length_escaped_le (cs : List Char) : cs.length ≤ (escaped cs).length := by
  induction cs with
  | nil => exact Nat.zero_le _
  | cons c cs ih =>
    have hpos : 0 < (chars (escapePoint (ofChar c))).length := by
      rcases escapePoint_ofChar c with ⟨e, -, -, -, h⟩ | ⟨-, h⟩ | ⟨-, -, -, h⟩ <;>
        rw [h, CodePoint.chars_map_ofChar] <;> simp
    rw [escaped_cons, List.length_append, List.length_cons]
    omega

/-- A string of characters is read back. -/
theorem readString_escaped {cs : List Char} {fuel : Nat} (hfuel : cs.length < fuel) (start : Nat)
    (rest : List Char) :
    readString start fuel (escaped cs ++ '"' :: rest) = .ok (cs.map ofChar, rest) := by
  induction cs generalizing fuel with
  | nil =>
    obtain ⟨fuel, rfl⟩ : ∃ n, fuel = n + 1 := ⟨fuel - 1, by simp at hfuel; omega⟩
    rfl
  | cons c cs ih =>
    rw [List.length_cons] at hfuel
    obtain ⟨fuel, rfl⟩ : ∃ n, fuel = n + 1 := ⟨fuel - 1, by omega⟩
    have hrest := ih (show cs.length < fuel by omega)
    -- a character is never at the end, since a quote follows
    obtain ⟨next, after, hnext⟩ : ∃ next after, escaped cs ++ '"' :: rest = next :: after :=
      List.exists_cons_of_ne_nil (by simp)
    rw [escaped_cons, List.append_assoc, hnext, readString_escapePoint, ← hnext, hrest]
    rfl

/-! ## What is written -/

/-- Code points that are characters, none of which controls anything. -/
def IsPrinted (ps : List CodePoint) : Prop := ∀ p ∈ ps, ∃ c, p = ofChar c ∧ 0x20 ≤ c.toNat

lemma IsPrinted.nil : IsPrinted [] := fun _ hp => absurd hp List.not_mem_nil

lemma isPrinted_map {cs : List Char} (h : ∀ c ∈ cs, 0x20 ≤ c.toNat) :
    IsPrinted (cs.map ofChar) := by
  intro p hp
  obtain ⟨c, hc, rfl⟩ := List.mem_map.1 hp
  exact ⟨c, rfl, h c hc⟩

/-- Given characters can be tested one by one. -/
lemma isPrinted_map_of_all {cs : List Char} (h : cs.all (fun c => 0x20 ≤ c.toNat) = true) :
    IsPrinted (cs.map ofChar) :=
  isPrinted_map (by simpa using h)

lemma IsPrinted.append {ps qs : List CodePoint} (hps : IsPrinted ps) (hqs : IsPrinted qs) :
    IsPrinted (ps ++ qs) := fun p hp => (List.mem_append.1 hp).elim (hps p) (hqs p)

lemma IsPrinted.cons {ps : List CodePoint} {c : Char} (hc : 0x20 ≤ c.toNat)
    (hps : IsPrinted ps) : IsPrinted (ofChar c :: ps) := by
  intro p hp
  rcases List.mem_cons.1 hp with rfl | hp
  · exact ⟨c, rfl, hc⟩
  · exact hps p hp

lemma IsPrinted.isSurrogate {ps : List CodePoint} (h : IsPrinted ps) :
    ∀ p ∈ ps, p.isSurrogate = false := by
  intro p hp
  obtain ⟨c, rfl, -⟩ := h p hp
  exact CodePoint.isSurrogate_ofChar c

lemma IsPrinted.le_toNat {ps : List CodePoint} (h : IsPrinted ps) :
    ∀ c ∈ chars ps, 0x20 ≤ c.toNat := by
  intro c hc
  obtain ⟨p, hp, hchar⟩ := List.mem_filterMap.1 hc
  obtain ⟨d, rfl, hd⟩ := h p hp
  rw [CodePoint.char?_ofChar, Option.some.injEq] at hchar
  exact hchar ▸ hd

lemma isPrinted_escapePoint (c : Char) : IsPrinted (escapePoint (ofChar c)) := by
  rcases escapePoint_ofChar c with ⟨e, he, -, -, h⟩ | ⟨hc, h⟩ | ⟨hc, -, -, h⟩
  · rw [h]
    exact isPrinted_map (by simpa using he)
  · rw [h]
    refine isPrinted_map ?_
    simpa using le_toNat_of_mem_hexDigits c.toNat hc
  · rw [h]
    exact isPrinted_map (by simpa using hc)

lemma isPrinted_writeString (cs : List Char) : IsPrinted (writeString (.ofChars cs)) := by
  have hbody : IsPrinted ((Text.ofChars cs).points.flatMap escapePoint) := by
    intro p hp
    obtain ⟨q, hq, hp⟩ := List.mem_flatMap.1 hp
    obtain ⟨c, -, rfl⟩ := List.mem_map.1 hq
    exact isPrinted_escapePoint c p hp
  exact (hbody.append (.cons (by decide) .nil)).cons (by decide)

lemma chars_writeString (cs : List Char) :
    chars (writeString (.ofChars cs)) = '"' :: (escaped cs ++ ['"']) := by
  simp [writeString, escaped, Text.ofChars]

end Shortlist.Json
