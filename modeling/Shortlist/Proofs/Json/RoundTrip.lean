import Shortlist.Proofs.Json.Layout
import Shortlist.Proofs.Value.Entries

/-!
# Documents read back

The text of a plain value is read back as the value (`parse_write`), provided that the value is one
that a document can say: integers that are not too long, keys that are distinct texts, and no more
levels than the reader allows.  How the document is set out does not matter, as long as nothing but
spaces and line breaks stands between its tokens (`Style.IsSpaced`).

The proof is an induction over the value.  `IsReadBack` is what it carries: the text of the value is
read back in front of whatever may follow a value, with two units of fuel for each character.  One
step of the readers of items and members is stated for whatever value is read where the text of the
first one stands (`readItems_more`, `readMembers_more`), so it also serves where nothing is known of
the fuel.
-/

namespace Shortlist.Json

open CodePoint (chars ofChar)
open Value (plainFault? IsPlain IsDecoded)

variable {style : Style} {level levels n fuel : Nat} {items : List Value}
  {entries : List (Key × Value)} {rest : List Char}

/-! ## Reading back -/

/-- A value is read back from its text where so many levels are allowed. -/
def IsReadBack (style : Style) (levels : Nat) (v : Value) : Prop :=
  ∀ level fuel rest, 2 * (chars (write style level v)).length ≤ fuel → Follows rest →
    readValue levels fuel (chars (write style level v) ++ rest) = .ok (v, rest)

/-- What stands behind the last item and in front of a closing bracket. -/
abbrev closing (style : Style) (level : Nat) (bracket : Char) (rest : List Char) : List Char :=
  chars (style.lineBreak level) ++ bracket :: rest

lemma skipSpace_closing {bracket : Char} (h : isSpace bracket = false) :
    skipSpace (closing style level bracket rest) = bracket :: rest := by
  rw [closing, skipSpace_gap (isGap_lineBreak style level), skipSpace_cons h]

/-- What stands behind an item when others follow it up to the end: a comma and their text. -/
def behind {α : Type} (style : Style) (level : Nat) (others : List α) (text : List CodePoint)
    (ending : List Char) : List Char :=
  if others = [] then ending
  else ',' :: (chars (afterSeparator style level) ++ (chars text ++ ending))

lemma follows_behind {α : Type} (others : List α) (text : List CodePoint) {bracket : Char}
    (h : bracket = ']' ∨ bracket = '\x7d') (outer : Nat) (rest : List Char) :
    Follows (behind style level others text (closing style outer bracket rest)) := by
  rw [behind]
  split
  · exact follows_lineBreak style outer (.inr (h.imp_right .inl)) rest
  · exact follows_cons (.inl rfl) _

/-- What is read behind the comma after an item begins with the next item. -/
lemma skipSpace_behind (hstyle : style.IsSpaced) {cs : List Char} (h : skipSpace cs = cs) :
    skipSpace (chars (afterSeparator style level) ++ cs) = cs :=
  (skipSpace_gap (hstyle.isGap_afterSeparator level) cs).trans h

lemma chars_writeItems_cons (v : Value) (items : List Value) (ending : List Char) :
    chars (writeItems style level (v :: items)) ++ ending
      = chars (write style level v)
        ++ behind style level items (writeItems style level items) ending := by
  rw [writeItems_cons, behind]
  split <;> simp

lemma chars_writeMembers_cons (ks : List Char) (v : Value) (entries : List (Key × Value))
    (ending : List Char) :
    chars (writeMembers style level ((.name (.ofChars ks), v) :: entries)) ++ ending
      = '"' :: (escaped ks ++ '"' :: ':' :: (chars style.afterColon ++ (chars (write style level v)
        ++ behind style level entries (writeMembers style level entries) ending))) := by
  rw [writeMembers_cons, keyName, CodePoint.chars_append, chars_writeString, behind]
  split <;> simp

/-! ### The items of a list -/

section Items

variable {v w : Value} {outer : Nat}

lemma readItems_last
    (hread : readValue levels fuel (chars (write style level v) ++ closing style outer ']' rest)
      = .ok (w, closing style outer ']' rest)) :
    readItems levels (fuel + 1) (chars (writeItems style level [v]) ++ closing style outer ']' rest)
      = .ok ([w], rest) := by
  rw [chars_writeItems_cons, behind, if_pos rfl, readItems, hread]
  simp only [Except.bind, skipSpace_closing (show isSpace ']' = false by decide)]

theorem readItems_more (hstyle : style.IsSpaced) (hitems : items ≠ [])
    (hplain : ∀ v ∈ items, v.IsPlain) {ending : List Char}
    (hread : readValue levels fuel (chars (write style level v)
        ++ behind style level items (writeItems style level items) ending)
      = .ok (w, behind style level items (writeItems style level items) ending)) :
    readItems levels (fuel + 1) (chars (writeItems style level (v :: items)) ++ ending)
      = (readItems levels fuel (chars (writeItems style level items) ++ ending)).map
        fun (ws, rest) => (w :: ws, rest) := by
  rw [chars_writeItems_cons, readItems, hread]
  have hnext : skipSpace (chars (writeItems style level items) ++ ending)
      = chars (writeItems style level items) ++ ending := by
    obtain ⟨c, cs, hcs, hc⟩ := exists_head_writeItems style level hplain hitems
    rw [hcs, List.cons_append, skipSpace_cons hc.1]
  simp only [Except.bind, behind, if_neg hitems,
    skipSpace_cons (show isSpace ',' = false by decide),
    skipSpace_behind hstyle hnext]

lemma readItems_write (hstyle : style.IsSpaced) (hread : ∀ v ∈ items, IsReadBack style levels v)
    (hitems : items ≠ []) (hplain : ∀ v ∈ items, v.IsPlain)
    (hfuel : 2 * (chars (writeItems style level items)).length < fuel) :
    readItems levels fuel (chars (writeItems style level items) ++ closing style outer ']' rest)
      = .ok (items, rest) := by
  induction items generalizing fuel with
  | nil => exact absurd rfl hitems
  | cons v items ih =>
    obtain ⟨fuel, rfl⟩ : ∃ n, fuel = n + 1 := ⟨fuel - 1, by omega⟩
    rw [writeItems_cons, CodePoint.chars_append, List.length_append] at hfuel
    have hfollows : Follows (behind style level items (writeItems style level items)
        (closing style outer ']' rest)) := follows_behind items _ (.inl rfl) outer rest
    have hv := hread v List.mem_cons_self level fuel _ (by omega) hfollows
    by_cases hlast : items = []
    · subst hlast
      exact readItems_last hv
    · have hplain' : ∀ w ∈ items, w.IsPlain := fun w hw => hplain w (List.mem_cons_of_mem _ hw)
      rw [if_neg hlast, CodePoint.chars_cons, CodePoint.chars_append, List.length_cons,
        List.length_append] at hfuel
      rw [readItems_more hstyle hlast hplain' hv,
        ih (fun w hw => hread w (List.mem_cons_of_mem _ hw)) hlast hplain' (by omega)]
      rfl

end Items

/-! ### The members of an object -/

section Members

variable {ks : List Char} {v w : Value} {outer : Nat}

lemma readMembers_cons (hstyle : style.IsSpaced) (hplain : v.IsPlain) (ending : List Char) :
    readMembers levels (fuel + 1)
        (chars (writeMembers style level ((.name (.ofChars ks), v) :: entries)) ++ ending)
      = (readValue levels fuel (chars (write style level v)
          ++ behind style level entries (writeMembers style level entries) ending)).bind
        fun (w, rest) =>
          match skipSpace rest with
          | '\x7d' :: after => .ok ([(.name (.ofChars ks), w)], after)
          | ',' :: after =>
            (readMembers levels fuel (skipSpace after)).map fun (members, rest) =>
              ((.name (.ofChars ks), w) :: members, rest)
          | other => stopAt .expectingComma other := by
  have hkey := length_escaped_le ks
  rw [chars_writeMembers_cons, readMembers, readString_escaped (by simp; omega)]
  simp only [Except.bind, skipSpace_cons (show isSpace ':' = false by decide),
    skipSpace_gap hstyle.isGap_afterColon, skipSpace_write hplain]
  rfl

lemma readMembers_last (hstyle : style.IsSpaced) (hplain : v.IsPlain)
    (hread : readValue levels fuel (chars (write style level v) ++ closing style outer '\x7d' rest)
      = .ok (w, closing style outer '\x7d' rest)) :
    readMembers levels (fuel + 1) (chars (writeMembers style level [(.name (.ofChars ks), v)])
        ++ closing style outer '\x7d' rest) = .ok ([(.name (.ofChars ks), w)], rest) := by
  rw [readMembers_cons hstyle hplain, behind, if_pos rfl, hread]
  simp only [Except.bind, skipSpace_closing (show isSpace '\x7d' = false by decide)]

theorem readMembers_more (hstyle : style.IsSpaced) (hplain : v.IsPlain) (hentries : entries ≠ [])
    {ending : List Char}
    (hread : readValue levels fuel (chars (write style level v)
        ++ behind style level entries (writeMembers style level entries) ending)
      = .ok (w, behind style level entries (writeMembers style level entries) ending)) :
    readMembers levels (fuel + 1)
        (chars (writeMembers style level ((.name (.ofChars ks), v) :: entries)) ++ ending)
      = (readMembers levels fuel (chars (writeMembers style level entries) ++ ending)).map
        fun (es, rest) => ((.name (.ofChars ks), w) :: es, rest) := by
  rw [readMembers_cons hstyle hplain, hread]
  have hnext : skipSpace (chars (writeMembers style level entries) ++ ending)
      = chars (writeMembers style level entries) ++ ending := by
    obtain ⟨cs, hcs⟩ := exists_head_writeMembers style level hentries
    rw [hcs, List.cons_append, skipSpace_cons (by decide)]
  simp only [Except.bind, behind, if_neg hentries,
    skipSpace_cons (show isSpace ',' = false by decide), skipSpace_behind hstyle hnext]

lemma readMembers_write (hstyle : style.IsSpaced)
    (hread : ∀ e ∈ entries, IsReadBack style levels e.2) (hentries : entries ≠ [])
    (hname : ∀ e ∈ entries, ∃ cs, e.1 = .name (.ofChars cs)) (hplain : ∀ e ∈ entries, e.2.IsPlain)
    (hfuel : 2 * (chars (writeMembers style level entries)).length < fuel) :
    readMembers levels fuel
        (chars (writeMembers style level entries) ++ closing style outer '\x7d' rest)
      = .ok (entries, rest) := by
  induction entries generalizing fuel with
  | nil => exact absurd rfl hentries
  | cons e entries ih =>
    obtain ⟨fuel, rfl⟩ : ∃ n, fuel = n + 1 := ⟨fuel - 1, by omega⟩
    obtain ⟨k, v⟩ := e
    obtain ⟨ks, rfl⟩ := hname _ List.mem_cons_self
    have hplain_v : v.IsPlain := hplain _ List.mem_cons_self
    rw [writeMembers_cons] at hfuel
    simp only [CodePoint.chars_append, CodePoint.chars_cons, List.length_append,
      List.length_cons] at hfuel
    have hfollows : Follows (behind style level entries (writeMembers style level entries)
        (closing style outer '\x7d' rest)) := follows_behind entries _ (.inr rfl) outer rest
    have hv := hread _ List.mem_cons_self level fuel _ (by dsimp only; omega) hfollows
    by_cases hlast : entries = []
    · subst hlast
      exact readMembers_last hstyle hplain_v hv
    · rw [if_neg hlast, CodePoint.chars_cons, CodePoint.chars_append, List.length_cons,
        List.length_append] at hfuel
      rw [readMembers_more hstyle hplain_v hlast hv,
        ih (fun e he => hread e (List.mem_cons_of_mem _ he)) hlast
          (fun e he => hname e (List.mem_cons_of_mem _ he))
          (fun e he => hplain e (List.mem_cons_of_mem _ he)) (by omega)]
      rfl

end Members

/-! ### Lists and objects -/

lemma readValue_scalar {c : Char} (hlist : c ≠ '[') (hobject : c ≠ '\x7b') (levels fuel : Nat)
    (cs : List Char) : readValue levels (fuel + 1) (c :: cs) = readScalar (c :: cs) := by
  rw [readValue]
  · exact fun rest h => hlist (List.cons.inj h).1
  · exact fun rest h => hobject (List.cons.inj h).1

lemma readValue_list {c : Char} (hc : BeginsValue c) {gap : List CodePoint}
    (hgap : IsGap style gap) (levels fuel : Nat) (cs : List Char) :
    readValue (levels + 1) (fuel + 1) ('[' :: (chars gap ++ c :: cs))
      = (readItems levels fuel (c :: cs)).map fun (items, rest) => (.list items, rest) := by
  rw [readValue, if_neg (Nat.succ_ne_zero levels), skipSpace_gap hgap, skipSpace_cons hc.1,
    Nat.add_sub_cancel]
  split
  · rename_i h
    exact absurd (List.cons.inj h).1 hc.2.1
  · rfl

/-- A list that has items is read as its items, in front of the closing bracket. -/
lemma readValue_write_list (hplain : ∀ v ∈ items, v.IsPlain) (hitems : items ≠ []) :
    readValue (levels + 1) (fuel + 1) (chars (write style level (.list items)) ++ rest)
      = (readItems levels fuel
          (chars (writeItems style (level + 1) items) ++ closing style level ']' rest)).map
        fun (items, rest) => (.list items, rest) := by
  have htext : chars (write style level (.list items)) ++ rest
      = '[' :: (chars (style.lineBreak (level + 1))
        ++ (chars (writeItems style (level + 1) items) ++ closing style level ']' rest)) := by
    simp [write_list hitems]
  obtain ⟨c, cs, hcs, hc⟩ := exists_head_writeItems style (level + 1) hplain hitems
  rw [htext, hcs, List.cons_append, readValue_list hc (isGap_lineBreak style _)]

lemma isReadBack_list (hstyle : style.IsSpaced) (hread : ∀ v ∈ items, IsReadBack style levels v)
    (hplain : ∀ v ∈ items, v.IsPlain) : IsReadBack style (levels + 1) (.list items) := by
  intro level fuel rest hfuel hrest
  by_cases hitems : items = []
  · subst hitems
    have hlength : (chars (write style level (.list []))).length = 2 := rfl
    obtain ⟨fuel, rfl⟩ : ∃ k, fuel = k + 1 := ⟨fuel - 1, by omega⟩
    rfl
  · rw [write_list hitems, CodePoint.chars_cons, CodePoint.chars_append, CodePoint.chars_append,
      List.length_cons, List.length_append, List.length_append] at hfuel
    obtain ⟨fuel, rfl⟩ : ∃ k, fuel = k + 1 := ⟨fuel - 1, by omega⟩
    rw [readValue_write_list hplain hitems,
      readItems_write hstyle hread hitems hplain (by omega)]
    rfl

lemma readValue_object {gap : List CodePoint} (hgap : IsGap style gap) (levels fuel : Nat)
    (cs : List Char) :
    readValue (levels + 1) (fuel + 1) ('\x7b' :: (chars gap ++ '"' :: cs))
      = (readMembers levels fuel ('"' :: cs)).map fun (members, rest) =>
        (.mapping (Entries.ofList members), rest) := by
  rw [readValue, if_neg (Nat.succ_ne_zero levels), skipSpace_gap hgap, Nat.add_sub_cancel]
  rfl

/-- An object that has members is read as its members, in front of the closing brace. -/
lemma readValue_write_mapping (hentries : entries ≠ []) :
    readValue (levels + 1) (fuel + 1) (chars (write style level (.mapping entries)) ++ rest)
      = (readMembers levels fuel
          (chars (writeMembers style (level + 1) entries) ++ closing style level '\x7d' rest)).map
        fun (members, rest) => (.mapping (Entries.ofList members), rest) := by
  have htext : chars (write style level (.mapping entries)) ++ rest
      = '\x7b' :: (chars (style.lineBreak (level + 1))
        ++ (chars (writeMembers style (level + 1) entries)
          ++ closing style level '\x7d' rest)) := by
    simp [write_mapping hentries]
  obtain ⟨cs, hcs⟩ := exists_head_writeMembers style (level + 1) hentries
  rw [htext, hcs, List.cons_append, readValue_object (isGap_lineBreak style _)]

lemma isReadBack_mapping (hstyle : style.IsSpaced)
    (hread : ∀ e ∈ entries, IsReadBack style levels e.2)
    (hname : ∀ e ∈ entries, ∃ cs, e.1 = .name (.ofChars cs)) (hplain : ∀ e ∈ entries, e.2.IsPlain)
    (hdistinct : (entries.map (·.1)).Nodup) : IsReadBack style (levels + 1) (.mapping entries) := by
  intro level fuel rest hfuel hrest
  by_cases hentries : entries = []
  · subst hentries
    have hlength : (chars (write style level (.mapping []))).length = 2 := rfl
    obtain ⟨fuel, rfl⟩ : ∃ k, fuel = k + 1 := ⟨fuel - 1, by omega⟩
    rfl
  · rw [write_mapping hentries, CodePoint.chars_cons, CodePoint.chars_append,
      CodePoint.chars_append, List.length_cons, List.length_append, List.length_append] at hfuel
    obtain ⟨fuel, rfl⟩ : ∃ k, fuel = k + 1 := ⟨fuel - 1, by omega⟩
    rw [readValue_write_mapping hentries,
      readMembers_write hstyle hread hentries hname hplain (by omega)]
    simp only [Except.map, Entries.ofList_of_nodup hdistinct]

lemma isReadBack_text (cs : List Char) : IsReadBack style levels (.text (.ofChars cs)) := by
  intro level fuel rest hfuel hrest
  rw [write, chars_writeString] at hfuel ⊢
  obtain ⟨fuel, rfl⟩ : ∃ k, fuel = k + 1 := ⟨fuel - 1, by simp at hfuel; omega⟩
  have hkey := length_escaped_le cs
  rw [List.cons_append, readValue_scalar (by decide) (by decide), readScalar, List.append_assoc,
    List.singleton_append, readString_escaped (by simp; omega)]
  rfl

lemma isReadBack_word {v : Value} {w : String} (hwrite : ∀ level, write style level v = word w)
    (hread : ∀ fuel rest, readValue levels (fuel + 1) (w.toList ++ rest) = .ok (v, rest))
    (hlength : 0 < w.toList.length) : IsReadBack style levels v := by
  intro level fuel rest hfuel _
  rw [hwrite, word, Text.ofString, Text.ofChars, CodePoint.chars_map_ofChar] at hfuel ⊢
  obtain ⟨fuel, rfl⟩ : ∃ k, fuel = k + 1 := ⟨fuel - 1, by omega⟩
  exact hread fuel rest

/-- Where a number begins there is no word. -/
lemma readWord?_number {cs : List Char} (hbegins : BeginsNumber cs) : readWord? cs = none := by
  have hdigit {c d : Char} (hc : isDigit c = true) (hd : isDigit d = false) : (d == c) = false := by
    rw [beq_eq_false_iff_ne]
    rintro rfl
    rw [hc] at hd
    cases hd
  have hwords : words.map (·.1) = [['n', 'u', 'l', 'l'], ['t', 'r', 'u', 'e'],
    ['f', 'a', 'l', 's', 'e'], ['N', 'a', 'N'], ['I', 'n', 'f', 'i', 'n', 'i', 't', 'y'],
    ['-', 'I', 'n', 'f', 'i', 'n', 'i', 't', 'y']] := rfl
  have hnot : ∀ w ∈ words.map (·.1), w.isPrefixOf cs = false := by
    rw [hwords]
    obtain ⟨c, ds, hc, rfl | rfl⟩ := hbegins
    · intro w hw
      simp only [List.mem_cons, List.not_mem_nil, or_false] at hw
      rcases hw with rfl | rfl | rfl | rfl | rfl | rfl <;>
        rw [List.isPrefixOf, hdigit hc (by decide), Bool.false_and]
    · -- the last word begins with the sign, too
      have hlast :
          ['-', 'I', 'n', 'f', 'i', 'n', 'i', 't', 'y'].isPrefixOf ('-' :: c :: ds) = false := by
        rw [List.isPrefixOf, List.isPrefixOf, hdigit hc (by decide), Bool.false_and, Bool.and_false]
      intro w hw
      simp only [List.mem_cons, List.not_mem_nil, or_false] at hw
      rcases hw with rfl | rfl | rfl | rfl | rfl | rfl
      on_goal 6 => exact hlast
      all_goals rfl
  rw [readWord?, List.findSome?_eq_none_iff]
  rintro ⟨w, v⟩ hw
  simp [hnot w (List.mem_map.2 ⟨_, hw, rfl⟩)]

/-- Where a number begins there is no string, list or object either. -/
lemma readValue_number {cs : List Char} {r : Result Value} (hbegins : BeginsNumber cs)
    (hread : readNumber? (cs ++ rest) = some r) :
    readValue levels (fuel + 1) (cs ++ rest) = r := by
  have hword := readWord?_number (hbegins.append rest)
  have hhead : ∃ c ds, cs ++ rest = c :: ds ∧ c ≠ '[' ∧ c ≠ '\x7b' ∧ c ≠ '"' := by
    obtain ⟨c, ds, hc, h | h⟩ := hbegins.append rest
    · refine ⟨c, ds, h, ?_, ?_, ?_⟩ <;>
      · rintro rfl
        exact absurd hc (by decide)
    · exact ⟨'-', c :: ds, h, by decide⟩
  obtain ⟨c, ds, hcs, hlist, hobject, hquote⟩ := hhead
  rw [hcs] at hword hread ⊢
  rw [readValue_scalar hlist hobject, readScalar]
  · rw [hword, hread]
    rfl
  · exact fun rest h => hquote (List.cons.inj h).1

lemma isReadBack_number {v : Value} {cs : List Char}
    (hwrite : ∀ level, write style level v = cs.map ofChar) (hbegins : BeginsNumber cs)
    (hread : ∀ rest, Follows rest → readNumber? (cs ++ rest) = some (.ok (v, rest))) :
    IsReadBack style levels v := by
  intro level fuel rest hfuel hrest
  rw [hwrite, CodePoint.chars_map_ofChar] at hfuel ⊢
  obtain ⟨c, ds, hcs, -⟩ := hbegins.beginsValue
  obtain ⟨fuel, rfl⟩ : ∃ k, fuel = k + 1 := ⟨fuel - 1, by simp [hcs] at hfuel; omega⟩
  exact readValue_number hbegins (hread rest hrest)

/-- A plain value that a document can say is read back. -/
lemma isReadBack (hstyle : style.IsSpaced) {v : Value} (hplain : v.IsPlain) (hdecoded : v.IsDecoded)
    (hfault : plainFault? true n v = none) (hlevels : n ≤ levels) : IsReadBack style levels v := by
  induction v using Value.induction generalizing n levels with
  | bytes _ | date _ | timestamp _ | pair _ _ _ _ | set _ | loop _ _ => cases hplain
  | null => exact isReadBack_word (fun _ => rfl) (fun _ _ => rfl) (by decide)
  | bool b =>
    cases b
    · exact isReadBack_word (fun _ => rfl) (fun _ _ => rfl) (by decide)
    · exact isReadBack_word (fun _ => rfl) (fun _ _ => rfl) (by decide)
  | int i =>
    cases hdecoded with
    | int hshort =>
      exact isReadBack_number (fun _ => rfl) (beginsNumber_intChars i) fun _ =>
        readNumber?_intChars hshort
  | float x =>
    cases x with
    | finite x =>
      exact isReadBack_number (fun _ => rfl) (beginsNumber_write _ x) fun _ => readNumber?_write _ x
    | _ => cases hplain
  | text t =>
    obtain ⟨cs, rfl⟩ := exists_ofChars hfault
    exact isReadBack_text cs
  | list items ih =>
    obtain ⟨n, rfl⟩ := Value.exists_level hfault
    obtain ⟨levels, rfl⟩ : ∃ k, levels = k + 1 := ⟨levels - 1, by omega⟩
    rw [Value.isPlain_list] at hplain
    rw [Value.plainFault?_list] at hfault
    cases hdecoded with
    | list hdecoded =>
      have hread : ∀ v ∈ items, IsReadBack style levels v := fun v hv =>
        ih v hv (hplain v hv) (hdecoded v hv) (hfault v hv) (by omega)
      exact isReadBack_list hstyle hread hplain
  | mapping entries ih =>
    obtain ⟨n, rfl⟩ := Value.exists_level hfault
    obtain ⟨levels, rfl⟩ : ∃ k, levels = k + 1 := ⟨levels - 1, by omega⟩
    rw [Value.isPlain_mapping] at hplain
    rw [Value.plainFault?_mapping] at hfault
    cases hdecoded with
    | mapping hdistinct _ hdecoded =>
      have hread : ∀ e ∈ entries, IsReadBack style levels e.2 := fun e he =>
        ih e he (hplain e he).2 (hdecoded e he) (hfault e he).2 (by omega)
      exact isReadBack_mapping hstyle hread
        (fun e he => exists_name (hplain e he).1 (hfault e he).1)
        (fun e he => (hplain e he).2) hdistinct

/-- The text of a plain value is a document that says the value. -/
theorem parse_write (hstyle : style.IsSpaced) {v : Value} (hplain : v.IsPlain)
    (hdecoded : v.IsDecoded)
    (hfault : plainFault? true n v = none) (hlevels : n ≤ nestingLimit) :
    parse (chars (write style level v)) = .ok v := by
  obtain ⟨c, cs, hcs, hspace, -, -, hascii⟩ := exists_head_write style level hplain
  have hread := isReadBack hstyle hplain hdecoded hfault hlevels level
    (2 * (chars (write style level v)).length + 2) [] (by omega) follows_nil
  have hmark : c ≠ Char.ofNat 0xFEFF := by
    rintro rfl
    exact absurd hascii (by decide)
  rw [List.append_nil, hcs] at hread
  simp only [parse, hcs, List.head?_cons, Option.some.injEq, if_neg hmark, skipSpace_cons hspace,
    hread]
  rfl

end Shortlist.Json
