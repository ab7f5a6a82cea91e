import Mathlib.Data.List.Nodup
import Shortlist.Identifier
import Shortlist.Number.Numeral
import Shortlist.Proofs.Text.Characters

/-!
# Identifiers that are never mistaken

A number below `2 ^ 128` has at most 32 hexadecimal digits, so an id ends in an underscore and
exactly 32 of them.  Two equal ids therefore end at the same place, whatever the words in front
hold, and a number can be read off its digits (`natOfHex`): equal ids are of the same word and the
same number (`identifier_inj`).

A `Draw` is a number that was drawn for a word.  `IdSource.Gives` says which draws have been made
between two states of a source, and `Draw.AreDistinct` what is asked of a source of random numbers.
-/

namespace Shortlist

/-! ## Hexadecimal digits -/

/-- A digit, or one of the letters that stand for the digits from ten on. -/
def IsLowerHex (c : Char) : Prop := ('0' ≤ c ∧ c ≤ '9') ∨ ('a' ≤ c ∧ c ≤ 'f')

instance (c : Char) : Decidable (IsLowerHex c) := by
  unfold IsLowerHex
  infer_instance

/-- The number that hexadecimal digits say. -/
def natOfHex (ds : List Char) : Nat := ds.foldl (fun n c => n * 16 + (hexValue? c).getD 0) 0

lemma natOfHex_append_singleton (ds : List Char) (c : Char) :
    natOfHex (ds ++ [c]) = natOfHex ds * 16 + (hexValue? c).getD 0 := by
  rw [natOfHex, List.foldl_append]
  rfl

lemma hexValue?_digitChar : ∀ d < 16, hexValue? d.digitChar = some d := by decide

lemma isLowerHex_digitChar : ∀ d < 16, IsLowerHex d.digitChar := by decide

lemma natOfHex_toDigits (n : Nat) : natOfHex (Nat.toDigits 16 n) = n := by
  induction n using Nat.strong_induction_on with
  | h n ih =>
    rw [Nat.toDigits_eq_if (by decide)]
    split
    · rename_i hlt
      rw [← List.nil_append [n.digitChar], natOfHex_append_singleton, hexValue?_digitChar n hlt]
      simp [natOfHex]
    · rename_i hge
      have hlast : n % 16 < 16 := Nat.mod_lt n (by decide)
      rw [natOfHex_append_singleton, hexValue?_digitChar _ hlast, ih (n / 16) (by omega)]
      exact Nat.div_add_mod' n 16

lemma isLowerHex_of_mem_toDigits {n : Nat} {c : Char} (h : c ∈ Nat.toDigits 16 n) :
    IsLowerHex c := by
  induction n using Nat.strong_induction_on with
  | h n ih =>
    rw [Nat.toDigits_eq_if (by decide)] at h
    split at h
    · rename_i hlt
      rw [List.mem_singleton.1 h]
      exact isLowerHex_digitChar n hlt
    · rename_i hge
      rcases List.mem_append.1 h with h | h
      · exact ih (n / 16) (by omega) h
      · rw [List.mem_singleton.1 h]
        exact isLowerHex_digitChar _ (Nat.mod_lt n (by decide))

namespace Text

variable {width n : Nat}

lemma natOfHex_hexDigits (width n : Nat) : natOfHex (hexDigits width n) = n := by
  -- zeros in front leave the number that is read so far at zero
  have hzeros (k : Nat) (ds : List Char) :
      natOfHex (List.replicate k '0' ++ ds) = natOfHex ds := by
    induction k with
    | zero => rfl
    | succ k ih =>
      rw [List.replicate_succ, List.cons_append, ← ih]
      rfl
  rw [hexDigits, hzeros, natOfHex_toDigits]

/-- A number that fits is written with as many digits as there are places. -/
lemma length_hexDigits (hwidth : 0 < width) (h : n < 16 ^ width) :
    (hexDigits width n).length = width := by
  have hle : (Nat.toDigits 16 n).length ≤ width :=
    (Nat.length_toDigits_le_iff (by decide) hwidth).2 h
  rw [hexDigits, List.length_append, List.length_replicate]
  omega

lemma isLowerHex_of_mem_hexDigits {c : Char} (h : c ∈ hexDigits width n) : IsLowerHex c := by
  rcases List.mem_append.1 h with h | h
  · rw [List.eq_of_mem_replicate h]
    decide
  · exact isLowerHex_of_mem_toDigits h

end Text

/-! ## Ids -/

lemma length_idDigits {n : Nat} (h : n < 2 ^ 128) : (Text.hexDigits 32 n).length = 32 :=
  Text.length_hexDigits (by decide) (Nat.lt_of_lt_of_eq h (by decide))

lemma toList_identifier (word : String) (n : Nat) :
    (identifier word n).toList = word.toList ++ '_' :: Text.hexDigits 32 n := by
  simp [identifier]

/-- Equal ids are of the same word and the same number, whatever the words are. -/
theorem identifier_inj {p q : String} {n m : Nat} (hn : n < 2 ^ 128) (hm : m < 2 ^ 128)
    (h : identifier p n = identifier q m) : p = q ∧ n = m := by
  have hchars := congrArg String.toList h
  rw [toList_identifier, toList_identifier] at hchars
  have hlength : ('_' :: Text.hexDigits 32 n).length = ('_' :: Text.hexDigits 32 m).length := by
    rw [List.length_cons, List.length_cons, length_idDigits hn, length_idDigits hm]
  obtain ⟨hword, hdigits⟩ := List.append_inj' hchars hlength
  refine ⟨String.toList_inj.1 hword, ?_⟩
  rw [← Text.natOfHex_hexDigits 32 n, (List.cons.inj hdigits).2, Text.natOfHex_hexDigits]

/-- An id as it is made for a word: the word, an underscore and 32 hexadecimal digits. -/
def IsIdOf (word : String) (id : Text) : Prop :=
  ∃ digits : List Char, id = .ofString (word ++ "_" ++ String.ofList digits)
    ∧ digits.length = 32 ∧ ∀ c ∈ digits, IsLowerHex c

lemma isIdOf_identifier (word : String) {n : Nat} (h : n < 2 ^ 128) :
    IsIdOf word (identifier word n) :=
  ⟨Text.hexDigits 32 n, rfl, length_idDigits h, fun _ => Text.isLowerHex_of_mem_hexDigits⟩

/-! ## Draws -/

/-- A number that was drawn for an id. -/
structure Draw where
  word : String
  number : Nat

namespace Draw

variable {draws more : List Draw} {word : String}

/-- The id that was made of a draw. -/
def id (d : Draw) : Text := identifier d.word d.number

/-- The ids that were made for a word, in the order of the draws. -/
def idsFor (word : String) (draws : List Draw) : List Text :=
  (draws.filter fun d => d.word = word).map id

/-- No number was drawn twice, and each has as many bits as an id can say. -/
structure AreDistinct (draws : List Draw) : Prop where
  nodup : (draws.map (·.number)).Nodup
  lt : ∀ d ∈ draws, d.number < 2 ^ 128

/-- Whether draws are distinct depends on their numbers only. -/
lemma AreDistinct.of_numbers_eq (h : AreDistinct draws)
    (heq : more.map (·.number) = draws.map (·.number)) : AreDistinct more where
  nodup := heq ▸ h.nodup
  lt := by
    have hlt : ∀ n ∈ draws.map (·.number), n < 2 ^ 128 := List.forall_mem_map.2 h.lt
    exact List.forall_mem_map.1 (heq ▸ hlt)

lemma AreDistinct.of_append (h : AreDistinct (draws ++ more)) : AreDistinct draws where
  nodup := by
    have hnodup := h.nodup
    rw [List.map_append] at hnodup
    exact hnodup.of_append_left
  lt d hd := h.lt d (List.mem_append_left more hd)

/-- Ids of distinct draws are distinct, for all words together. -/
lemma AreDistinct.nodup_ids (h : AreDistinct draws) : (draws.map id).Nodup := by
  refine (List.nodup_map_iff_inj_on (List.Nodup.of_map _ h.nodup)).2 fun d hd d' hd' heq => ?_
  have hid := identifier_inj (h.lt d hd) (h.lt d' hd') (Text.ofString_injective heq)
  exact List.inj_on_of_nodup_map h.nodup hd hd' hid.2

lemma idsFor_append (word : String) (draws more : List Draw) :
    idsFor word (draws ++ more) = idsFor word draws ++ idsFor word more := by
  rw [idsFor, List.filter_append, List.map_append, idsFor, idsFor]

lemma idsFor_self (word : String) (number : Nat) :
    idsFor word [⟨word, number⟩] = [id ⟨word, number⟩] := by
  simp [idsFor]

lemma idsFor_sublist (word : String) (draws : List Draw) :
    (idsFor word draws).Sublist (draws.map id) := List.filter_sublist.map id

lemma AreDistinct.isIdOf (h : AreDistinct draws) {text : Text} (hmem : text ∈ idsFor word draws) :
    IsIdOf word text := by
  obtain ⟨d, hd, rfl⟩ := List.mem_map.1 hmem
  obtain ⟨hdraw, hword⟩ := List.mem_filter.1 hd
  rw [← of_decide_eq_true hword]
  exact isIdOf_identifier d.word (h.lt d hdraw)

/-- Ids that were made for two words are distinct, together. -/
lemma AreDistinct.nodup_append {word' : String} (h : AreDistinct draws) (hne : word ≠ word')
    {ids ids' : List Text} (hids : ids.Sublist (idsFor word draws))
    (hids' : ids'.Sublist (idsFor word' draws)) : (ids ++ ids').Nodup := by
  have hnodup := h.nodup_ids
  refine List.nodup_append'.2 ⟨(hids.trans (idsFor_sublist word draws)).nodup hnodup,
    (hids'.trans (idsFor_sublist word' draws)).nodup hnodup, fun text htext htext' => hne ?_⟩
  obtain ⟨d, hd, rfl⟩ := List.mem_map.1 (hids.subset htext)
  obtain ⟨d', hd', hid⟩ := List.mem_map.1 (hids'.subset htext')
  obtain ⟨hdraw, hword⟩ := List.mem_filter.1 hd
  obtain ⟨hdraw', hword'⟩ := List.mem_filter.1 hd'
  have hinj := identifier_inj (h.lt d' hdraw') (h.lt d hdraw) (Text.ofString_injective hid)
  rw [← of_decide_eq_true hword, ← of_decide_eq_true hword', hinj.1]

/-- The id of a further draw is new. -/
lemma AreDistinct.id_not_mem {d : Draw} (h : AreDistinct (draws ++ [d])) {ids : List Text}
    (hids : ids.Sublist (draws.map id)) : d.id ∉ ids := by
  intro hmem
  have hnodup := h.nodup_ids
  rw [List.map_append, List.map_singleton, List.nodup_append'] at hnodup
  exact hnodup.2.2 (hids.subset hmem) (List.mem_singleton_self d.id)

end Draw

namespace IdSource

/-- The draws that were made between two states of a source, in their order. -/
inductive Gives (start : IdSource) : List Draw → IdSource → Prop where
  | nil : Gives start [] start
  | snoc {draws : List Draw} {s : IdSource} (before : Gives start draws s) (word : String) :
    Gives start (draws ++ [⟨word, s.draw.1⟩]) (s.fresh word).2

lemma fresh_fst (s : IdSource) (word : String) :
    ((s.fresh word).1 : Text) = Draw.id ⟨word, s.draw.1⟩ := rfl

namespace Gives

variable {start s s' : IdSource} {draws draws' : List Draw}

/-- Every draw takes one of the given numbers, or the next one. -/
theorem count (h : start.Gives draws s) :
    s.draws.length + start.next + draws.length = start.draws.length + s.next := by
  induction h with
  | nil => rfl
  | @snoc draws s before word ih =>
    obtain ⟨given, next⟩ := s
    rw [List.length_append, List.length_singleton]
    cases given with
    | nil =>
      simp only [fresh, draw, List.length_nil] at ih ⊢
      omega
    | cons n rest =>
      simp only [fresh, draw, List.length_cons] at ih ⊢
      omega

/-- As many draws from one source come to the same numbers. -/
lemma numbers_eq_of_length (h : start.Gives draws s) (h' : start.Gives draws' s')
    (hlength : draws.length = draws'.length) :
    draws.map (·.number) = draws'.map (·.number) ∧ s = s' := by
  induction h generalizing draws' s' with
  | nil =>
    cases h' with
    | nil => exact ⟨rfl, rfl⟩
    | snoc => simp at hlength
  | snoc before word ih =>
    cases h' with
    | nil => simp at hlength
    | snoc before' word' =>
      rw [List.length_append, List.length_append] at hlength
      obtain ⟨hnumbers, rfl⟩ := ih before' (Nat.add_right_cancel hlength)
      rw [List.map_append, List.map_append, hnumbers]
      exact ⟨rfl, rfl⟩

/-- Which numbers were drawn can be seen from the source. -/
theorem numbers_eq (h : start.Gives draws s) (h' : start.Gives draws' s) :
    draws.map (·.number) = draws'.map (·.number) := by
  have hcount := h.count
  have hcount' := h'.count
  exact (h.numbers_eq_of_length h' (by omega)).1

end Gives

end IdSource

end Shortlist
