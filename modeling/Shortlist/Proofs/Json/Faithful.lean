import Shortlist.Proofs.Json.Decoded
import Shortlist.Proofs.Json.RoundTrip

/-!
# What is read where a value was written

The text of a plain value need not be readable: an integer in it may be too long, or lists may stand
too deep inside one another.  But if anything is read there, it is the value, with the entries of
equal keys merged (`merged_of_parse_write`).  So nothing needs to be known about facts that were
written to know what else the same document says.

For values without parts this follows from reading them back, since it takes neither fuel nor levels
to read them (`yields_of_isReadBack`).  Lists and mappings follow by induction, as in reading back,
but whatever stops the reader ends the argument.
-/

namespace Shortlist.Json

open CodePoint (chars ofChar)
open Value (plainFault? IsPlain)

variable {style : Style} {level levels n fuel outer : Nat} {items : List Value}
  {entries : List (Key × Value)} {rest after : List Char}

/-- Whatever is read where the text of a value stands is the value, its equal keys merged, and what
follows the text is left. -/
def Yields (style : Style) (v : Value) : Prop :=
  ∀ level levels fuel rest w after, Follows rest →
    readValue levels fuel (chars (write style level v) ++ rest) = .ok (w, after) →
    w = v.merged ∧ after = rest

/-- Where items are read, the first of them is read. -/
lemma exists_readValue_of_readItems {v : Value} {ws : List Value} {ending : List Char}
    (h : readItems levels (fuel + 1) (chars (writeItems style level (v :: items)) ++ ending)
      = .ok (ws, after)) :
    ∃ w left, readValue levels fuel (chars (write style level v)
      ++ behind style level items (writeItems style level items) ending) = .ok (w, left) := by
  rw [chars_writeItems_cons, readItems] at h
  obtain ⟨⟨w, left⟩, hw, -⟩ := Except.bind_eq_ok.1 h
  exact ⟨w, left, hw⟩

lemma readItems_yields (hstyle : style.IsSpaced) (hread : ∀ v ∈ items, Yields style v)
    (hitems : items ≠ []) (hplain : ∀ v ∈ items, v.IsPlain) {ws : List Value}
    (h : readItems levels fuel (chars (writeItems style level items)
      ++ closing style outer ']' rest)
      = .ok (ws, after)) : ws = items.map Value.merged ∧ after = rest := by
  induction items generalizing fuel ws with
  | nil => exact absurd rfl hitems
  | cons v items ih =>
    cases fuel with
    | zero => cases h
    | succ fuel =>
      have hfollows : Follows (behind style level items (writeItems style level items)
          (closing style outer ']' rest)) := follows_behind items _ (.inl rfl) outer rest
      obtain ⟨w, left, hw⟩ := exists_readValue_of_readItems h
      obtain ⟨rfl, rfl⟩ := hread v List.mem_cons_self _ _ _ _ _ _ hfollows hw
      by_cases hlast : items = []
      · subst hlast
        cases (readItems_last hw).symm.trans h
        exact ⟨rfl, rfl⟩
      · have hplain' : ∀ w ∈ items, w.IsPlain := fun w hw => hplain w (List.mem_cons_of_mem _ hw)
        rw [readItems_more hstyle hlast hplain' hw] at h
        obtain ⟨⟨ws', left⟩, hws, h⟩ := Except.map_eq_ok.1 h
        cases h
        obtain ⟨rfl, rfl⟩ := ih (fun w hw => hread w (List.mem_cons_of_mem _ hw)) hlast hplain' hws
        exact ⟨rfl, rfl⟩

/-- Where members are read, the value of the first of them is read. -/
lemma exists_readValue_of_readMembers (hstyle : style.IsSpaced) {ks : List Char} {v : Value}
    (hplain : v.IsPlain) {es : List (Key × Value)} {ending : List Char}
    (h : readMembers levels (fuel + 1)
        (chars (writeMembers style level ((.name (.ofChars ks), v) :: entries)) ++ ending)
      = .ok (es, after)) :
    ∃ w left, readValue levels fuel (chars (write style level v)
      ++ behind style level entries (writeMembers style level entries) ending) = .ok (w, left) := by
  rw [readMembers_cons hstyle hplain] at h
  obtain ⟨⟨w, left⟩, hw, -⟩ := Except.bind_eq_ok.1 h
  exact ⟨w, left, hw⟩

lemma readMembers_yields (hstyle : style.IsSpaced) (hread : ∀ e ∈ entries, Yields style e.2)
    (hentries : entries ≠ []) (hname : ∀ e ∈ entries, ∃ cs, e.1 = .name (.ofChars cs))
    (hplain : ∀ e ∈ entries, e.2.IsPlain) {es : List (Key × Value)}
    (h : readMembers levels fuel
        (chars (writeMembers style level entries) ++ closing style outer '\x7d' rest)
      = .ok (es, after)) : es = entries.map (fun e => (e.1, e.2.merged)) ∧ after = rest := by
  induction entries generalizing fuel es with
  | nil => exact absurd rfl hentries
  | cons e entries ih =>
    cases fuel with
    | zero => cases h
    | succ fuel =>
      obtain ⟨k, v⟩ := e
      obtain ⟨ks, rfl⟩ := hname _ List.mem_cons_self
      have hplain_v : v.IsPlain := hplain _ List.mem_cons_self
      have hfollows : Follows (behind style level entries (writeMembers style level entries)
          (closing style outer '\x7d' rest)) := follows_behind entries _ (.inr rfl) outer rest
      obtain ⟨w, left, hw⟩ := exists_readValue_of_readMembers hstyle hplain_v h
      obtain ⟨rfl, rfl⟩ := hread _ List.mem_cons_self _ _ _ _ _ _ hfollows hw
      -- the last member is followed by the end, every other one by a separator
      by_cases hlast : entries = []
      · subst hlast
        cases (readMembers_last hstyle hplain_v hw).symm.trans h
        exact ⟨rfl, rfl⟩
      · rw [readMembers_more hstyle hplain_v hlast hw] at h
        obtain ⟨⟨es', left⟩, hes, h⟩ := Except.map_eq_ok.1 h
        cases h
        obtain ⟨rfl, rfl⟩ := ih (fun e he => hread e (List.mem_cons_of_mem _ he)) hlast
          (fun e he => hname e (List.mem_cons_of_mem _ he))
          (fun e he => hplain e (List.mem_cons_of_mem _ he)) hes
        exact ⟨rfl, rfl⟩

/-! ## Lists and mappings -/

/-- Where no level is left, no list and no object is read. -/
lemma exists_level_of_readValue {c : Char} (hc : c = '[' ∨ c = '\x7b') {cs : List Char}
    {w : Value} (h : readValue levels (fuel + 1) (c :: cs) = .ok (w, after)) :
    ∃ n, levels = n + 1 := by
  cases levels with
  | succ levels => exact ⟨levels, rfl⟩
  | zero =>
    rcases hc with rfl | rfl <;>
    · rw [readValue, if_pos rfl] at h
      cases h

lemma yields_list (hstyle : style.IsSpaced) (hread : ∀ v ∈ items, Yields style v)
    (hplain : ∀ v ∈ items, v.IsPlain) : Yields style (.list items) := by
  intro level levels fuel rest w after hrest h
  rw [Value.merged, Value.mergedAll_eq_map]
  cases fuel with
  | zero => cases h
  | succ fuel =>
    by_cases hitems : items = []
    · subst hitems
      obtain ⟨levels, rfl⟩ := exists_level_of_readValue (.inl rfl) h
      cases h
      exact ⟨rfl, rfl⟩
    · obtain ⟨cs, hcs⟩ : ∃ cs, chars (write style level (.list items)) ++ rest = '[' :: cs :=
        ⟨_, by rw [write_list hitems, CodePoint.chars_cons, List.cons_append]⟩
      obtain ⟨levels, rfl⟩ := exists_level_of_readValue (.inl rfl) (hcs ▸ h)
      rw [readValue_write_list hplain hitems] at h
      obtain ⟨⟨ws, left⟩, hws, h⟩ := Except.map_eq_ok.1 h
      cases h
      obtain ⟨rfl, rfl⟩ := readItems_yields hstyle hread hitems hplain hws
      exact ⟨rfl, rfl⟩

lemma yields_mapping (hstyle : style.IsSpaced) (hread : ∀ e ∈ entries, Yields style e.2)
    (hname : ∀ e ∈ entries, ∃ cs, e.1 = .name (.ofChars cs))
    (hplain : ∀ e ∈ entries, e.2.IsPlain) : Yields style (.mapping entries) := by
  intro level levels fuel rest w after hrest h
  rw [Value.merged, Value.mergedEntries_eq_map]
  cases fuel with
  | zero => cases h
  | succ fuel =>
    by_cases hentries : entries = []
    · subst hentries
      obtain ⟨levels, rfl⟩ := exists_level_of_readValue (.inr rfl) h
      cases h
      exact ⟨rfl, rfl⟩
    · obtain ⟨cs, hcs⟩ :
          ∃ cs, chars (write style level (.mapping entries)) ++ rest = '\x7b' :: cs :=
        ⟨_, by rw [write_mapping hentries, CodePoint.chars_cons, List.cons_append]⟩
      obtain ⟨levels, rfl⟩ := exists_level_of_readValue (.inr rfl) (hcs ▸ h)
      rw [readValue_write_mapping hentries] at h
      obtain ⟨⟨es, left⟩, hes, h⟩ := Except.map_eq_ok.1 h
      cases h
      obtain ⟨rfl, rfl⟩ := readMembers_yields hstyle hread hentries hname hplain hes
      exact ⟨rfl, rfl⟩

/-! ## Values without parts -/

/-- A value that begins neither a list nor an object and is read back is read back with as little
fuel and as few levels as there may be. -/
theorem yields_of_isReadBack {v : Value} (hmerged : v.merged = v)
    (hhead : ∀ level, ∃ c cs, chars (write style level v) = c :: cs ∧ c ≠ '[' ∧ c ≠ '\x7b')
    (hread : ∀ levels, IsReadBack style levels v) : Yields style v := by
  intro level levels fuel rest w after hrest h
  cases fuel with
  | zero => cases h
  | succ fuel =>
    obtain ⟨c, cs, hcs, hlist, hobject⟩ := hhead level
    have hback := hread levels level (2 * (chars (write style level v)).length + 1) rest
      (Nat.le_succ _) hrest
    rw [hcs, List.cons_append, readValue_scalar hlist hobject] at h hback
    cases h.symm.trans hback
    exact ⟨hmerged.symm, rfl⟩

lemma BeginsNumber.exists_head {cs : List Char} (h : BeginsNumber cs) :
    ∃ c ds, cs = c :: ds ∧ c ≠ '[' ∧ c ≠ '\x7b' := by
  obtain ⟨c, ds, hc, rfl | rfl⟩ := h
  · refine ⟨c, ds, rfl, ?_, ?_⟩ <;>
    · rintro rfl
      exact absurd hc (by decide)
  · exact ⟨'-', c :: ds, rfl, by decide⟩

/-- An integer that is too long is not read at all. -/
lemma yields_int (i : Int) : Yields style (.int i) := by
  intro level levels fuel rest w after hrest h
  cases fuel with
  | zero => cases h
  | succ fuel =>
    rw [write, CodePoint.chars_map_ofChar,
      readValue_number (beginsNumber_intChars i) (readNumber?_intChars_eq i hrest)] at h
    split at h <;> cases h
    exact ⟨rfl, rfl⟩

/-- Whatever is read where a plain value was written is the value. -/
lemma yields (hstyle : style.IsSpaced) {v : Value} (hplain : v.IsPlain)
    (hfault : plainFault? true n v = none) : Yields style v := by
  induction v using Value.induction generalizing n with
  | bytes _ | date _ | timestamp _ | pair _ _ _ _ | set _ | loop _ _ => cases hplain
  | null =>
    exact yields_of_isReadBack rfl (fun _ => ⟨'n', _, rfl, by decide⟩)
      fun _ => isReadBack_word (fun _ => rfl) (fun _ _ => rfl) (by decide)
  | bool b =>
    cases b
    · exact yields_of_isReadBack rfl (fun _ => ⟨'f', _, rfl, by decide⟩)
        fun _ => isReadBack_word (fun _ => rfl) (fun _ _ => rfl) (by decide)
    · exact yields_of_isReadBack rfl (fun _ => ⟨'t', _, rfl, by decide⟩)
        fun _ => isReadBack_word (fun _ => rfl) (fun _ _ => rfl) (by decide)
  | int i => exact yields_int i
  | float x =>
    cases x with
    | finite x =>
      refine yields_of_isReadBack rfl (fun level => ?_) fun _ =>
        isReadBack_number (fun _ => rfl) (beginsNumber_write _ x) fun _ => readNumber?_write _ x
      rw [write, CodePoint.chars_map_ofChar]
      exact (beginsNumber_write _ x).exists_head
    | _ => cases hplain
  | text t =>
    obtain ⟨cs, rfl⟩ := exists_ofChars hfault
    exact yields_of_isReadBack rfl (fun _ => ⟨'"', _, CodePoint.chars_cons, by decide⟩)
      fun _ => isReadBack_text cs
  | list items ih =>
    obtain ⟨n, rfl⟩ := Value.exists_level hfault
    rw [Value.isPlain_list] at hplain
    rw [Value.plainFault?_list] at hfault
    -- the depth goes down with the value, and the levels of the reader are left open
    exact yields_list hstyle (fun v hv => ih v hv (hplain v hv) (hfault v hv)) hplain
  | mapping entries ih =>
    obtain ⟨n, rfl⟩ := Value.exists_level hfault
    rw [Value.isPlain_mapping] at hplain
    rw [Value.plainFault?_mapping] at hfault
    exact yields_mapping hstyle (fun e he => ih e he (hplain e he).2 (hfault e he).2)
      (fun e he => exists_name (hplain e he).1 (hfault e he).1) fun e he => (hplain e he).2

/-- A document that is the text of a plain value says the value, if it says anything. -/
theorem merged_of_parse_write (hstyle : style.IsSpaced) {v w : Value} (hplain : v.IsPlain)
    (hfault : plainFault? true n v = none) (h : parse (chars (write style level v)) = .ok w) :
    w = v.merged := by
  obtain ⟨rest, hread⟩ := readValue_of_parse h
  rw [← List.append_nil (chars (write style level v)), skipSpace_write hplain] at hread
  exact (yields hstyle hplain hfault _ _ _ _ _ _ follows_nil hread).1

end Shortlist.Json
