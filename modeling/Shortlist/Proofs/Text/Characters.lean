import Mathlib.Data.List.TakeWhile
import Shortlist.Text.Utf8

/-!
# Texts that hold characters only

A text without surrogates is the text of its characters (`Text.exists_ofChars`).  Such texts are the
ones that bytes encode, the ones that have a string, and the ones that survive a record line.
-/

namespace Shortlist

namespace CodePoint

@[simp]
lemma value_ofChar (c : Char) : (ofChar c).value = c.toNat := rfl

lemma isValidChar_ofChar (c : Char) : (ofChar c).value.isValidChar := c.valid

@[simp]
lemma char?_ofChar (c : Char) : (ofChar c).char? = some c := by
  have hvalid := isValidChar_ofChar c
  have hc : Char.ofNatAux (ofChar c).value hvalid = c := by
    have hnat : Char.ofNat (ofChar c).value = c := Char.ofNat_toNat c
    rwa [Char.ofNat, dif_pos hvalid] at hnat
  rw [char?, dif_pos hvalid, hc]

lemma ofChar_of_char? {p : CodePoint} {c : Char} (h : p.char? = some c) : ofChar c = p := by
  by_cases hvalid : p.value.isValidChar
  · rw [char?, dif_pos hvalid] at h
    obtain rfl := Option.some.inj h
    cases p
    rfl
  · rw [char?, dif_neg hvalid] at h
    cases h

lemma ofChar_injective {c d : Char} (h : ofChar c = ofChar d) : c = d := by
  have hchars := congrArg char? h
  simpa using hchars

lemma isSurrogate_ofChar (c : Char) : (ofChar c).isSurrogate = false := by
  have h := isValidChar_ofChar c
  simp only [isSurrogate, Nat.isValidChar, Bool.and_eq_false_iff, decide_eq_false_iff_not] at *
  omega

/-- A code point that is no surrogate is a character. -/
lemma exists_ofChar {p : CodePoint} (h : p.isSurrogate = false) : ∃ c, p = ofChar c := by
  have hvalid : p.value.isValidChar := by
    have hlt := p.value_lt
    simp only [isSurrogate, Bool.and_eq_false_iff, decide_eq_false_iff_not] at h
    simp only [Nat.isValidChar]
    omega
  exact ⟨Char.ofNatAux p.value hvalid, (ofChar_of_char? (dif_pos hvalid)).symm⟩

/-- The characters among code points. -/
def chars (ps : List CodePoint) : List Char := ps.filterMap char?

variable {ps qs : List CodePoint} {c : Char}

@[simp]
lemma chars_nil : chars [] = [] := rfl

@[simp]
lemma chars_append : chars (ps ++ qs) = chars ps ++ chars qs := List.filterMap_append

@[simp]
lemma chars_cons : chars (ofChar c :: ps) = c :: chars ps :=
  List.filterMap_cons_some (char?_ofChar c)

@[simp]
lemma chars_map_ofChar (cs : List Char) : chars (cs.map ofChar) = cs := by
  induction cs with
  | nil => rfl
  | cons c cs ih => rw [List.map_cons, chars_cons, ih]

/-- Code points that are all characters are those of their characters. -/
lemma map_ofChar_chars (h : ∀ p ∈ ps, p.isSurrogate = false) : (chars ps).map ofChar = ps := by
  induction ps with
  | nil => rfl
  | cons p ps ih =>
    obtain ⟨c, rfl⟩ := exists_ofChar (h p (by simp))
    rw [chars_cons, List.map_cons, ih fun q hq => h q (List.mem_cons_of_mem _ hq)]

end CodePoint

namespace Text

variable {t : Text} {cs : List Char}

lemma unencodable?_eq_none : t.unencodable? = none ↔ ∀ p ∈ t.points, p.isSurrogate = false := by
  unfold unencodable?
  constructor
  · intro h
    split at h
    · rename_i hdrop
      simpa [List.dropWhile_eq_nil_iff] using hdrop
    · cases h
  · intro h
    have hdrop : t.points.dropWhile (!·.isSurrogate) = [] := by
      simpa [List.dropWhile_eq_nil_iff] using h
    rw [hdrop]

@[simp]
lemma unencodable?_ofChars (cs : List Char) : (ofChars cs).unencodable? = none := by
  rw [unencodable?_eq_none]
  intro p hp
  obtain ⟨c, -, rfl⟩ := List.mem_map.1 hp
  exact CodePoint.isSurrogate_ofChar c

@[simp]
lemma chars?_ofChars (cs : List Char) : (ofChars cs).chars? = some cs := by
  unfold chars? ofChars
  induction cs with
  | nil => rfl
  | cons c cs ih =>
    rw [List.map_cons, List.mapM_cons, ih]
    simp

@[simp]
lemma string?_ofString (s : String) : (ofString s).string? = some s := by
  simp [string?, ofString]

lemma ofChars_injective {ds : List Char} (h : ofChars cs = ofChars ds) : cs = ds := by
  have hchars := congrArg chars? h
  simpa using hchars

lemma ofString_injective {s s' : String} (h : ofString s = ofString s') : s = s' :=
  String.toList_injective (ofChars_injective h)

lemma ofString_inj {s s' : String} : ofString s = ofString s' ↔ s = s' :=
  ⟨ofString_injective, fun h => congrArg ofString h⟩

/-- A text is its code points. -/
lemma points_inj {t u : Text} : t.points = u.points ↔ t = u :=
  ⟨fun h => congrArg mk h, fun h => congrArg points h⟩

lemma eq_ofChars (h : t.chars? = some cs) : t = ofChars cs := by
  obtain ⟨points⟩ := t
  change points.mapM CodePoint.char? = some cs at h
  induction points generalizing cs with
  | nil =>
    cases h
    rfl
  | cons p points ih =>
    rw [List.mapM_cons] at h
    obtain ⟨c, hc, h⟩ := Option.bind_eq_some_iff.1 h
    obtain ⟨cs', hcs', h⟩ := Option.bind_eq_some_iff.1 h
    cases h
    have htail := Text.mk.inj (ih hcs')
    rw [htail, ← CodePoint.ofChar_of_char? hc]
    rfl

/-- A text that has a string is the text of it. -/
lemma eq_ofString {s : String} (h : t.string? = some s) : t = ofString s := by
  obtain ⟨cs, hcs, rfl⟩ := Option.map_eq_some_iff.1 h
  rw [ofString, String.toList_ofList]
  exact eq_ofChars hcs

/-- A text of which no surrogate is a part is the text of characters. -/
theorem exists_ofChars (h : t.unencodable? = none) : ∃ cs, t = ofChars cs :=
  ⟨CodePoint.chars t.points,
    congrArg Text.mk (CodePoint.map_ofChar_chars (unencodable?_eq_none.1 h)).symm⟩

end Text

end Shortlist
