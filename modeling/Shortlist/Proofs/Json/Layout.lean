import Shortlist.Proofs.Json.Numeral
import Shortlist.Proofs.Json.Strings
import Shortlist.Proofs.Value.Plain

/-!
# How documents are set out

The text of a list is its items with separators between them, and that of an object its members
(`writeItems_cons`, `writeMembers_cons`).  As long as a style puts nothing but spaces and line
breaks between the tokens (`Style.IsSpaced`), the text of a plain value consists of characters, with
no control characters but the line breaks of the style (`isSetOut_write`), and it begins where a
reader looks for a value (`exists_head_write`).

What a style puts between the tokens is a gap (`IsGap`), and all that a reader has to know of a gap
is that it is skipped.  Nothing more is asked of a style when a value is read back, so this is one
proof for record lines, for lines of a trail and for pages.  That there is no line break in a record
line or in a line of a trail, on the other hand, is a fact about these styles
(`IsSetOut.isPrinted`).
-/

namespace Shortlist.Json

open CodePoint (chars ofChar)
open Value (plainFault? IsPlain)

variable {style : Style} {level n : Nat} {items : List Value} {entries : List (Key × Value)}

/-! ## Styles -/

/-- A style that puts nothing but spaces behind commas and colons. -/
structure Style.IsSpaced (style : Style) : Prop where
  afterComma : ∀ p ∈ style.afterComma, p = ofChar ' '
  afterColon : ∀ p ∈ style.afterColon, p = ofChar ' '

lemma Style.isSpaced_record : Style.record.IsSpaced := ⟨by simp [record], by simp [record]⟩

lemma Style.isSpaced_line : Style.line.IsSpaced := ⟨by simp [line], by simp [line]⟩

lemma Style.isSpaced_page : Style.page.IsSpaced := ⟨by simp [page], by simp [page]⟩

/-- Characters between two tokens: spaces, and line breaks if the style has them. -/
def IsGap (style : Style) (ps : List CodePoint) : Prop :=
  ∀ p ∈ ps, p = ofChar ' ' ∨ p = ofChar '\n' ∧ style.indent.isSome

lemma isGap_lineBreak (style : Style) (level : Nat) : IsGap style (style.lineBreak level) := by
  intro p hp
  rw [Style.lineBreak] at hp
  cases hindent : style.indent with
  | none =>
    rw [hindent] at hp
    cases hp
  | some n =>
    rw [hindent] at hp
    rcases List.mem_cons.1 hp with rfl | hp
    · exact .inr ⟨rfl, rfl⟩
    · exact .inl (List.eq_of_mem_replicate hp)

/-- What follows the comma between two items. -/
def afterSeparator (style : Style) (level : Nat) : List CodePoint :=
  style.afterComma ++ style.lineBreak level

lemma separator_eq (style : Style) (level : Nat) :
    separator style level = ofChar ',' :: afterSeparator style level := rfl

lemma Style.IsSpaced.isGap_afterSeparator (h : style.IsSpaced) (level : Nat) :
    IsGap style (afterSeparator style level) := by
  intro p hp
  rcases List.mem_append.1 hp with hp | hp
  · exact .inl (h.afterComma p hp)
  · exact isGap_lineBreak style level p hp

lemma Style.IsSpaced.isGap_afterColon (h : style.IsSpaced) : IsGap style style.afterColon :=
  fun p hp => .inl (h.afterColon p hp)

/-- A gap is skipped. -/
lemma skipSpace_gap {ps : List CodePoint} (h : IsGap style ps) (cs : List Char) :
    skipSpace (chars ps ++ cs) = skipSpace cs := by
  refine List.dropWhile_append_of_pos fun c hc => ?_
  obtain ⟨p, hp, hchar⟩ := List.mem_filterMap.1 hc
  rcases h p hp with rfl | ⟨rfl, -⟩ <;>
  · rw [CodePoint.char?_ofChar, Option.some.injEq] at hchar
    subst hchar
    decide

/-- A line break, or what it stands in front of, may follow a value. -/
lemma follows_lineBreak (style : Style) (level : Nat) {c : Char}
    (hc : c = ',' ∨ c = ']' ∨ c = '\x7d' ∨ c = '\n') (rest : List Char) :
    Follows (chars (style.lineBreak level) ++ c :: rest) := by
  rw [Style.lineBreak]
  cases style.indent with
  | none => exact follows_cons hc rest
  | some n =>
    rw [CodePoint.chars_cons, List.cons_append]
    exact follows_cons (by simp) _

/-! ## What is written -/

lemma write_list (h : items ≠ []) :
    write style level (.list items)
      = ofChar '[' :: (style.lineBreak (level + 1) ++ (writeItems style (level + 1) items
        ++ (style.lineBreak level ++ [ofChar ']']))) := by
  rw [write, if_neg (by simpa using h)]
  simp [enclose]

lemma write_mapping (h : entries ≠ []) :
    write style level (.mapping entries)
      = ofChar '\x7b' :: (style.lineBreak (level + 1) ++ (writeMembers style (level + 1) entries
        ++ (style.lineBreak level ++ [ofChar '\x7d']))) := by
  rw [write, if_neg (by simpa using h)]
  simp [enclose]

/-- The text of a mapping stands between braces. -/
lemma exists_chars_mapping (style : Style) (level : Nat) (h : entries ≠ []) :
    ∃ cs, chars (write style level (.mapping entries)) = '\x7b' :: (cs ++ ['\x7d']) :=
  ⟨chars (style.lineBreak (level + 1)) ++ (chars (writeMembers style (level + 1) entries)
    ++ chars (style.lineBreak level)), by simp [write_mapping h]⟩

/-- On a page the brace that opens a mapping stands on a line of its own. -/
lemma exists_chars_page (h : entries ≠ []) :
    ∃ cs, chars (write .page 0 (.mapping entries)) = '\x7b' :: '\n' :: cs := by
  rw [write_mapping h]
  exact ⟨chars (List.replicate 2 (ofChar ' ')
    ++ (writeMembers .page 1 entries ++ (Style.page.lineBreak 0 ++ [ofChar '\x7d']))), rfl⟩

theorem writeItems_cons (v : Value) (items : List Value) :
    writeItems style level (v :: items)
      = write style level v
        ++ if items = [] then []
          else ofChar ',' :: (afterSeparator style level ++ writeItems style level items) := by
  rw [writeItems]
  cases items <;> rfl

theorem writeMembers_cons (k : Key) (v : Value) (entries : List (Key × Value)) :
    writeMembers style level ((k, v) :: entries)
      = writeString (keyName k) ++ ofChar ':' :: (style.afterColon ++ (write style level v
        ++ if entries = [] then []
          else ofChar ',' :: (afterSeparator style level
            ++ writeMembers style level entries))) := by
  rw [writeMembers]
  cases entries <;> simp [separator_eq]

/-- The text of a key that has one. -/
lemma exists_name {k : Key} (hname : ∃ t, k = .name t) (h : Value.keyFault? k = none) :
    ∃ cs, k = .name (.ofChars cs) := by
  obtain ⟨t, rfl⟩ := hname
  rw [Value.keyFault?, Option.map_eq_none_iff] at h
  obtain ⟨cs, rfl⟩ := Text.exists_ofChars h
  exact ⟨cs, rfl⟩

/-- A text that can be reduced consists of characters. -/
lemma exists_ofChars {t : Text} (h : plainFault? true n (.text t) = none) :
    ∃ cs, t = .ofChars cs := by
  obtain ⟨n, rfl⟩ := Value.exists_level h
  exact Text.exists_ofChars (Option.map_eq_none_iff.1 h)

/-! ### Characters of a document -/

/-- Code points that are characters: printed ones, and line breaks if the style has them. -/
def IsSetOut (style : Style) (ps : List CodePoint) : Prop :=
  ∀ p ∈ ps, ∃ c, p = ofChar c ∧ (0x20 ≤ c.toNat ∨ c = '\n' ∧ style.indent.isSome)

lemma IsPrinted.isSetOut {ps : List CodePoint} (h : IsPrinted ps) : IsSetOut style ps := by
  intro p hp
  obtain ⟨c, rfl, hc⟩ := h p hp
  exact ⟨c, rfl, .inl hc⟩

lemma IsGap.isSetOut {ps : List CodePoint} (h : IsGap style ps) : IsSetOut style ps := by
  intro p hp
  rcases h p hp with rfl | ⟨rfl, hindent⟩
  · exact ⟨' ', rfl, .inl (by decide)⟩
  · exact ⟨'\n', rfl, .inr ⟨rfl, hindent⟩⟩

/-- Where the style has no line breaks there are none. -/
lemma IsSetOut.isPrinted {ps : List CodePoint} (h : IsSetOut style ps)
    (hflat : style.indent = none) :
    IsPrinted ps := by
  intro p hp
  obtain ⟨c, rfl, hc | ⟨-, hindent⟩⟩ := h p hp
  · exact ⟨c, rfl, hc⟩
  · rw [hflat] at hindent
    cases hindent

lemma IsSetOut.nil : IsSetOut style [] := fun _ hp => absurd hp List.not_mem_nil

lemma IsSetOut.append {ps qs : List CodePoint} (hps : IsSetOut style ps)
    (hqs : IsSetOut style qs) : IsSetOut style (ps ++ qs) :=
  fun p hp => (List.mem_append.1 hp).elim (hps p) (hqs p)

lemma IsSetOut.cons {ps : List CodePoint} {c : Char} (hc : 0x20 ≤ c.toNat)
    (hps : IsSetOut style ps) : IsSetOut style (ofChar c :: ps) := by
  intro p hp
  rcases List.mem_cons.1 hp with rfl | hp
  · exact ⟨c, rfl, .inl hc⟩
  · exact hps p hp

lemma isSetOut_writeItems (hstyle : style.IsSpaced)
    (h : ∀ v ∈ items, IsSetOut style (write style level v)) :
    IsSetOut style (writeItems style level items) := by
  induction items with
  | nil => exact .nil
  | cons v items ih =>
    rw [writeItems_cons]
    refine (h v List.mem_cons_self).append ?_
    split
    · exact .nil
    · exact ((hstyle.isGap_afterSeparator level).isSetOut.append
        (ih fun w hw => h w (List.mem_cons_of_mem _ hw))).cons (by decide)

lemma isSetOut_writeMembers (hstyle : style.IsSpaced)
    (hkey : ∀ e ∈ entries, IsPrinted (writeString (keyName e.1)))
    (h : ∀ e ∈ entries, IsSetOut style (write style level e.2)) :
    IsSetOut style (writeMembers style level entries) := by
  induction entries with
  | nil => exact .nil
  | cons e entries ih =>
    obtain ⟨k, v⟩ := e
    rw [writeMembers_cons]
    refine (hkey _ List.mem_cons_self).isSetOut.append (.cons (by decide)
      (hstyle.isGap_afterColon.isSetOut.append ((h _ List.mem_cons_self).append ?_)))
    split
    · exact .nil
    · exact ((hstyle.isGap_afterSeparator level).isSetOut.append
        (ih (fun e he => hkey e (List.mem_cons_of_mem _ he))
          fun e he => h e (List.mem_cons_of_mem _ he))).cons (by decide)

/-- The text of a plain value that can be reduced consists of characters, and none of them controls
anything but the line breaks of the style. -/
theorem isSetOut_write (hstyle : style.IsSpaced) {v : Value} (hplain : v.IsPlain)
    (h : plainFault? true n v = none) : IsSetOut style (write style level v) := by
  induction v using Value.induction generalizing n level with
  | null => exact (isPrinted_map_of_all rfl).isSetOut
  | bool b => cases b <;> exact (isPrinted_map_of_all rfl).isSetOut
  | int n => exact (isPrinted_map fun c hc => le_toNat_of_mem_intChars hc).isSetOut
  | float x =>
    cases x with
    | finite x => exact (isPrinted_map fun c hc => le_toNat_of_mem_write hc).isSetOut
    | _ => cases hplain
  | text t =>
    obtain ⟨cs, rfl⟩ := exists_ofChars h
    exact (isPrinted_writeString cs).isSetOut
  | list items ih =>
    obtain ⟨n, rfl⟩ := Value.exists_level h
    rw [Value.isPlain_list] at hplain
    rw [Value.plainFault?_list] at h
    by_cases hitems : items = []
    · subst hitems
      exact (isPrinted_map_of_all rfl).isSetOut
    -- a list with items is set out over lines, an empty one is a word
    · have hbody : IsSetOut style (writeItems style (level + 1) items) :=
        isSetOut_writeItems hstyle fun v hv => ih v hv (hplain v hv) (h v hv)
      rw [write_list hitems]
      exact .cons (by decide) ((isGap_lineBreak style _).isSetOut.append (hbody.append
        ((isGap_lineBreak style _).isSetOut.append (.cons (by decide) .nil))))
  | mapping entries ih =>
    obtain ⟨n, rfl⟩ := Value.exists_level h
    rw [Value.isPlain_mapping] at hplain
    rw [Value.plainFault?_mapping] at h
    by_cases hentries : entries = []
    · subst hentries
      exact (isPrinted_map_of_all rfl).isSetOut
    · have hbody : IsSetOut style (writeMembers style (level + 1) entries) := by
        refine isSetOut_writeMembers hstyle (fun e he => ?_)
          fun e he => ih e he (hplain e he).2 (h e he).2
        obtain ⟨cs, hcs⟩ := exists_name (hplain e he).1 (h e he).1
        rw [hcs]
        exact isPrinted_writeString cs
      rw [write_mapping hentries]
      exact .cons (by decide) ((isGap_lineBreak style _).isSetOut.append (hbody.append
        ((isGap_lineBreak style _).isSetOut.append (.cons (by decide) .nil))))
  | bytes _ | date _ | timestamp _ | pair _ _ _ _ | set _ | loop _ _ => cases hplain

/-- The line of a plain value that can be reduced consists of characters, and none of them breaks
it. -/
lemma isPrinted_write {v : Value} (hplain : v.IsPlain) (h : plainFault? true n v = none) :
    IsPrinted (write .record level v) :=
  (isSetOut_write Style.isSpaced_record hplain h).isPrinted rfl

/-! ## Where a value begins -/

/-- A character that may begin a value. -/
def BeginsValue (c : Char) : Prop :=
  isSpace c = false ∧ c ≠ ']' ∧ c ≠ '\x7d' ∧ c.toNat < 0x80

instance (c : Char) : Decidable (BeginsValue c) := by
  unfold BeginsValue
  infer_instance

lemma beginsValue_of_isDigit {c : Char} (h : isDigit c = true) : BeginsValue c := by
  rw [isDigit_iff] at h
  have hne {d : Char} (hd : ¬(48 ≤ d.toNat ∧ d.toNat ≤ 57)) : c ≠ d := fun heq => hd (heq ▸ h)
  refine ⟨?_, hne (by decide), hne (by decide), by omega⟩
  simp only [isSpace, Bool.or_eq_false_iff, decide_eq_false_iff_not]
  exact ⟨⟨⟨hne (by decide), hne (by decide)⟩, hne (by decide)⟩, hne (by decide)⟩

lemma BeginsNumber.beginsValue {cs : List Char} (h : BeginsNumber cs) :
    ∃ c ds, cs = c :: ds ∧ BeginsValue c := by
  obtain ⟨c, ds, hc, rfl | rfl⟩ := h
  · exact ⟨c, ds, rfl, beginsValue_of_isDigit hc⟩
  · exact ⟨'-', c :: ds, rfl, by decide⟩

theorem exists_head_write (style : Style) (level : Nat) {v : Value} (hplain : v.IsPlain) :
    ∃ c cs, chars (write style level v) = c :: cs ∧ BeginsValue c := by
  cases v with
  | null => exact ⟨'n', _, rfl, by decide⟩
  | bool b =>
    cases b
    · exact ⟨'f', _, rfl, by decide⟩
    · exact ⟨'t', _, rfl, by decide⟩
  | int n =>
    rw [write, CodePoint.chars_map_ofChar]
    exact (beginsNumber_intChars n).beginsValue
  | float x =>
    cases x with
    | finite x =>
      rw [write, CodePoint.chars_map_ofChar]
      exact (beginsNumber_write _ x).beginsValue
    | _ => cases hplain
  | text t => exact ⟨'"', _, CodePoint.chars_cons, by decide⟩
  | list items =>
    by_cases hitems : items = []
    · subst hitems
      exact ⟨'[', _, rfl, by decide⟩
    · rw [write_list hitems]
      exact ⟨'[', _, CodePoint.chars_cons, by decide⟩
  | mapping entries =>
    by_cases hentries : entries = []
    · subst hentries
      exact ⟨'\x7b', _, rfl, by decide⟩
    · rw [write_mapping hentries]
      exact ⟨'\x7b', _, CodePoint.chars_cons, by decide⟩
  | bytes _ | date _ | timestamp _ | pair _ _ | set _ | loop _ _ => cases hplain

lemma exists_head_writeItems (style : Style) (level : Nat) (hplain : ∀ v ∈ items, v.IsPlain)
    (hitems : items ≠ []) :
    ∃ c cs, chars (writeItems style level items) = c :: cs ∧ BeginsValue c := by
  obtain ⟨v, items, rfl⟩ := List.exists_cons_of_ne_nil hitems
  obtain ⟨c, cs, hcs, hc⟩ := exists_head_write style level (hplain v List.mem_cons_self)
  rw [writeItems_cons, CodePoint.chars_append, hcs]
  exact ⟨c, _, rfl, hc⟩

/-- The text of members begins with the quote of a key. -/
lemma exists_head_writeMembers (style : Style) (level : Nat) (hentries : entries ≠ []) :
    ∃ cs, chars (writeMembers style level entries) = '"' :: cs := by
  obtain ⟨⟨k, v⟩, entries, rfl⟩ := List.exists_cons_of_ne_nil hentries
  rw [writeMembers_cons, writeString, List.cons_append, List.cons_append, CodePoint.chars_cons]
  exact ⟨_, rfl⟩

lemma skipSpace_cons {c : Char} (h : isSpace c = false) (cs : List Char) :
    skipSpace (c :: cs) = c :: cs := by
  rw [skipSpace, List.dropWhile_cons_of_neg (by simp [h])]

lemma skipSpace_write {v : Value} (hplain : v.IsPlain) (rest : List Char) :
    skipSpace (chars (write style level v) ++ rest) = chars (write style level v) ++ rest := by
  obtain ⟨c, cs, hcs, hc⟩ := exists_head_write style level hplain
  rw [hcs, List.cons_append, skipSpace_cons hc.1]

end Shortlist.Json
