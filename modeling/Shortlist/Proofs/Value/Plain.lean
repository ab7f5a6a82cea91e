import Shortlist.Proofs.Text.Characters
import Shortlist.Proofs.Value.Entries
import Shortlist.Value.Dump

/-!
# Reducing values

`Value.plain`, `Value.plainFault?` and `Value.isPlain` go through a value together with the lists in
it.  Here each of them is stated by the members of those lists, so that one induction over a value
(`Value.induction`) serves all of them, and the laws of the reduction are proved: what it gives
is plain (`isPlain_plain`), it leaves what is plain alone (`plain_of_isPlain`), and a value that
can be reduced can be reduced again (`plainFault?_plain`).  Merging the keys of a plain value
leaves it plain and reducible.

`Value.IsDecoded` singles out the values that a JSON text can say.
-/

namespace Shortlist.Value

/-- Induction over a value, with a hypothesis for each value that stands in a list, a pair or a
mapping. -/
@[elab_as_elim]
theorem induction {motive : Value → Prop} (null : motive .null) (bool : ∀ b, motive (.bool b))
    (int : ∀ n, motive (.int n)) (float : ∀ x, motive (.float x)) (text : ∀ t, motive (.text t))
    (bytes : ∀ content, motive (.bytes content)) (date : ∀ d, motive (.date d))
    (timestamp : ∀ t, motive (.timestamp t))
    (list : ∀ items : List Value, (∀ v ∈ items, motive v) → motive (.list items))
    (pair : ∀ first second, motive first → motive second → motive (.pair first second))
    (set : ∀ members, motive (.set members))
    (mapping : ∀ entries : List (Key × Value), (∀ e ∈ entries, motive e.2) →
      motive (.mapping entries))
    (loop : ∀ isMapping up, motive (.loop isMapping up)) (v : Value) : motive v :=
  @Value.rec motive (fun items => ∀ v ∈ items, motive v) (fun entries => ∀ e ∈ entries, motive e.2)
    (fun e => motive e.2) null bool int float text bytes date timestamp list
    (fun first second hfirst hsecond => pair first second hfirst hsecond) set mapping loop
    (fun _ h => absurd h List.not_mem_nil)
    (fun _ _ hv hrest _ h => (List.mem_cons.1 h).elim (fun heq => heq ▸ hv) (hrest _))
    (fun _ h => absurd h List.not_mem_nil)
    (fun _ _ hv hrest _ h => (List.mem_cons.1 h).elim (fun heq => heq ▸ hv) (hrest _))
    (fun _ _ hv => hv) v

/-! ## Lists and mappings by their members -/

variable {encoded : Bool} {levels : Nat} {items : List Value} {entries : List (Key × Value)}

lemma plainAll_eq_map (items : List Value) : plainAll items = items.map plain := by
  induction items with
  | nil => rfl
  | cons v rest ih => rw [plainAll, ih, List.map_cons]

lemma plainEntries_eq_map (entries : List (Key × Value)) :
    plainEntries entries = entries.map fun e => (.name (recordKey e.1), plain e.2) := by
  induction entries with
  | nil => rfl
  | cons e rest ih => rw [plainEntries, ih, List.map_cons]

lemma isPlain_list : IsPlain (.list items) ↔ ∀ v ∈ items, IsPlain v := by
  unfold IsPlain
  rw [isPlain]
  induction items with
  | nil => simp [allPlain]
  | cons v rest ih => simp [allPlain, ih]

lemma isPlain_mapping :
    IsPlain (.mapping entries) ↔ ∀ e ∈ entries, (∃ t, e.1 = .name t) ∧ IsPlain e.2 := by
  unfold IsPlain
  rw [isPlain]
  induction entries with
  | nil => simp [allPlainEntries]
  | cons e rest ih =>
    obtain ⟨k, v⟩ := e
    cases k <;> simp [allPlainEntries, ih]

lemma plainFault?_list :
    plainFault? encoded (levels + 1) (.list items) = none
      ↔ ∀ v ∈ items, plainFault? encoded levels v = none := by
  rw [plainFault?]
  induction items with
  | nil => simp [plainFaultAll?]
  | cons v rest ih =>
    rw [plainFaultAll?]
    cases hv : plainFault? encoded levels v <;> simp [hv, ih]

lemma plainFault?_mapping :
    plainFault? encoded (levels + 1) (.mapping entries) = none
      ↔ ∀ e ∈ entries, keyFault? e.1 = none ∧ plainFault? encoded levels e.2 = none := by
  rw [plainFault?]
  induction entries with
  | nil => simp [plainFaultEntries?]
  | cons e rest ih =>
    obtain ⟨k, v⟩ := e
    rw [plainFaultEntries?]
    cases hk : keyFault? k <;> cases hv : plainFault? encoded levels v <;> simp [hk, hv, ih]

lemma plainFault?_pair {first second : Value} :
    plainFault? encoded (levels + 1) (.pair first second) = none
      ↔ plainFault? encoded levels first = none ∧ plainFault? encoded levels second = none := by
  rw [plainFault?]
  cases plainFault? encoded levels first <;> simp

/-- A value can be reduced only where at least one level is allowed. -/
lemma exists_level {v : Value} (h : plainFault? encoded levels v = none) :
    ∃ n, levels = n + 1 := by
  cases levels with
  | zero => cases v <;> cases h
  | succ n => exact ⟨n, rfl⟩

/-! ## What the reduction gives -/

lemma isPlain_plainKey (k : Key) : IsPlain (plainKey k) := by
  cases k with
  | float x => cases x <;> rfl
  | _ => rfl

theorem isPlain_plain (v : Value) : IsPlain v.plain := by
  induction v using Value.induction with
  | float x => cases x <;> rfl
  | list items ih =>
    rw [plain, plainAll_eq_map, isPlain_list]
    simpa using ih
  | pair first second hfirst hsecond =>
    rw [plain, isPlain_list]
    simp [hfirst, hsecond]
  | set members =>
    rw [plain, isPlain_list]
    simpa using fun k _ => isPlain_plainKey k
  | mapping entries ih =>
    rw [plain, plainEntries_eq_map, isPlain_mapping]
    intro e he
    obtain ⟨e', he', rfl⟩ := List.mem_map.1 he
    exact ⟨⟨_, rfl⟩, ih e' he'⟩
  | _ => rfl

/-- A plain value is left alone. -/
theorem plain_of_isPlain {v : Value} (h : IsPlain v) : v.plain = v := by
  induction v using Value.induction with
  | float x =>
    cases x with
    | finite x => rfl
    | _ => cases h
  | list items ih =>
    rw [isPlain_list] at h
    have hitems : items.map plain = items :=
      (List.map_congr_left fun v hv => ih v hv (h v hv)).trans (List.map_id items)
    rw [plain, plainAll_eq_map, hitems]
  | mapping entries ih =>
    rw [isPlain_mapping] at h
    -- a key of a plain value is a text, and a record has the text as its key
    have hentry : ∀ e ∈ entries, (Key.name (recordKey e.1), plain e.2) = id e := by
      intro e he
      obtain ⟨⟨t, ht⟩, hplain⟩ := h e he
      rw [ih e he hplain, ht, recordKey, ← ht, id]
    have hentries := (List.map_congr_left hentry).trans (List.map_id entries)
    rw [plain, plainEntries_eq_map, hentries]
  | bytes _ | date _ | timestamp _ | pair _ _ _ _ | set _ | loop _ _ => cases h
  | _ => rfl

@[simp]
lemma plain_plain (v : Value) : v.plain.plain = v.plain := plain_of_isPlain (isPlain_plain v)

@[simp]
lemma dump_plain (v : Value) : v.plain.dump = v.dump := by
  rw [dump, plain_plain, dump]

/-! ## Values that can be reduced -/

lemma textFault?_ofChars (cs : List Char) : textFault? encoded (.ofChars cs) = none := by
  unfold textFault?
  cases encoded <;> simp

lemma keyFault?_ofChars (cs : List Char) : keyFault? (.name (.ofChars cs)) = none := by
  rw [keyFault?, Text.unencodable?_ofChars, Option.map_none]

lemma keyFault?_recordKey {k : Key} (h : keyFault? k = none) :
    keyFault? (.name (recordKey k)) = none := by
  cases k with
  | name t => exact h
  | bool b => cases b <;> exact keyFault?_ofChars _
  | float x => cases x <;> exact keyFault?_ofChars _
  | _ => exact keyFault?_ofChars _

lemma plainFault?_plainKey {k : Key} (h : memberFault? encoded levels k = none) :
    plainFault? encoded levels (plainKey k) = none := by
  cases levels with
  | zero => cases h
  | succ levels =>
    cases k with
    | name t => exact h
    | float x => cases x <;> rfl
    | null | bool _ | int _ => rfl
    | _ => exact textFault?_ofChars _

/-- A value that can be reduced can be reduced again. -/
theorem plainFault?_plain {v : Value} (h : plainFault? encoded levels v = none) :
    plainFault? encoded levels v.plain = none := by
  -- the levels go down with the value; what is no list or mapping needs one level, as its text does
  induction v using Value.induction generalizing levels with
  | null | bool _ | int _ | text _ => exact h
  | loop _ _ => cases levels <;> cases h
  | float x =>
    obtain ⟨n, rfl⟩ := exists_level h
    cases x <;> rfl
  | bytes _ | date _ | timestamp _ =>
    obtain ⟨n, rfl⟩ := exists_level h
    exact textFault?_ofChars _
  | list items ih =>
    obtain ⟨n, rfl⟩ := exists_level h
    rw [plainFault?_list] at h
    rw [plain, plainAll_eq_map, plainFault?_list]
    simpa using fun v hv => ih v hv (h v hv)
  | pair first second hfirst hsecond =>
    obtain ⟨n, rfl⟩ := exists_level h
    rw [plainFault?_pair] at h
    rw [plain, plainFault?_list]
    simp [hfirst h.1, hsecond h.2]
  | set members =>
    obtain ⟨n, rfl⟩ := exists_level h
    rw [plainFault?, List.findSome?_eq_none_iff] at h
    rw [plain, plainFault?_list]
    simpa using fun k hk => plainFault?_plainKey (h k hk)
  | mapping entries ih =>
    obtain ⟨n, rfl⟩ := exists_level h
    rw [plainFault?_mapping] at h
    rw [plain, plainEntries_eq_map, plainFault?_mapping]
    intro e he
    obtain ⟨e', he', rfl⟩ := List.mem_map.1 he
    exact ⟨keyFault?_recordKey (h e' he').1, ih e' he' (h e' he').2⟩

lemma memberFault?_of_encoded {k : Key} (h : memberFault? true levels k = none) :
    memberFault? false levels k = none := by
  cases levels with
  | zero => cases h
  | succ levels =>
    cases k with
    | name t => rfl
    | _ => exact h

lemma dump?_eq_ok {v w : Value} :
    v.dump? levels = .ok w ↔ plainFault? false levels v = none ∧ v.dump = w := by
  rw [dump?]
  cases plainFault? false levels v <;> simp

/-- A value whose texts can be encoded can be reduced where they need not be. -/
lemma plainFault?_of_encoded {v : Value} (h : plainFault? true levels v = none) :
    plainFault? false levels v = none := by
  induction v using Value.induction generalizing levels with
  | null | bool _ | int _ | float _ | bytes _ | date _ | timestamp _ | loop _ _ =>
    cases levels <;> exact h
  | text t =>
    obtain ⟨n, rfl⟩ := exists_level h
    rfl
  | list items ih =>
    obtain ⟨n, rfl⟩ := exists_level h
    rw [plainFault?_list] at h ⊢
    exact fun v hv => ih v hv (h v hv)
  | pair first second hfirst hsecond =>
    obtain ⟨n, rfl⟩ := exists_level h
    rw [plainFault?_pair] at h ⊢
    exact ⟨hfirst h.1, hsecond h.2⟩
  | set members =>
    obtain ⟨n, rfl⟩ := exists_level h
    rw [plainFault?, List.findSome?_eq_none_iff] at h ⊢
    exact fun k hk => memberFault?_of_encoded (h k hk)
  | mapping entries ih =>
    obtain ⟨n, rfl⟩ := exists_level h
    rw [plainFault?_mapping] at h ⊢
    exact fun e he => ⟨(h e he).1, ih e he (h e he).2⟩

/-! ## Merging keys -/

lemma mergedAll_eq_map (items : List Value) : mergedAll items = items.map merged := by
  induction items with
  | nil => rfl
  | cons v rest ih => rw [mergedAll, ih, List.map_cons]

lemma mergedEntries_eq_map (entries : List (Key × Value)) :
    mergedEntries entries = entries.map fun e => (e.1, merged e.2) := by
  induction entries with
  | nil => rfl
  | cons e rest ih => rw [mergedEntries, ih, List.map_cons]

/-- An entry of a merged mapping is an entry of the mapping with its value merged. -/
lemma exists_of_mem_merged {entries : List (Key × Value)} {e : Key × Value}
    (h : e ∈ Entries.ofList (mergedEntries entries)) :
    ∃ e' ∈ entries, e = (e'.1, merged e'.2) := by
  have hmem := Entries.mem_of_mem_ofList h
  rw [mergedEntries_eq_map] at hmem
  obtain ⟨e', he', heq⟩ := List.mem_map.1 hmem
  exact ⟨e', he', heq.symm⟩

lemma isPlain_merged {v : Value} (h : IsPlain v) : IsPlain v.merged := by
  induction v using Value.induction with
  | list items ih =>
    rw [isPlain_list] at h
    rw [merged, mergedAll_eq_map, isPlain_list]
    simpa using fun v hv => ih v hv (h v hv)
  | mapping entries ih =>
    rw [isPlain_mapping] at h
    rw [merged, isPlain_mapping]
    intro e he
    obtain ⟨e', he', rfl⟩ := exists_of_mem_merged he
    exact ⟨(h e' he').1, ih e' he' (h e' he').2⟩
  | bytes _ | date _ | timestamp _ | pair _ _ _ _ | set _ | loop _ _ => cases h
  | _ => exact h

/-- A plain value that can be reduced can be reduced when it is merged. -/
lemma plainFault?_merged {v : Value} (hplain : IsPlain v)
    (h : plainFault? encoded levels v = none) : plainFault? encoded levels v.merged = none := by
  induction v using Value.induction generalizing levels with
  | list items ih =>
    obtain ⟨n, rfl⟩ := exists_level h
    rw [isPlain_list] at hplain
    rw [plainFault?_list] at h
    rw [merged, mergedAll_eq_map, plainFault?_list]
    simpa using fun v hv => ih v hv (hplain v hv) (h v hv)
  | mapping entries ih =>
    obtain ⟨n, rfl⟩ := exists_level h
    rw [isPlain_mapping] at hplain
    rw [plainFault?_mapping] at h
    rw [merged, plainFault?_mapping]
    intro e he
    obtain ⟨e', he', rfl⟩ := exists_of_mem_merged he
    exact ⟨(h e' he').1, ih e' he' (hplain e' he').2 (h e' he').2⟩
  | bytes _ | date _ | timestamp _ | pair _ _ _ _ | set _ | loop _ _ => cases hplain
  | _ => exact h

lemma isPlain_dump (v : Value) : IsPlain v.dump := isPlain_merged (isPlain_plain v)

lemma plainFault?_dump {v : Value} (h : plainFault? encoded levels v = none) :
    plainFault? encoded levels v.dump = none :=
  plainFault?_merged (isPlain_plain v) (plainFault?_plain h)

/-! ## Values that a document can say -/

/-- A value that a JSON text can say: its integers are not too long, and its mappings have texts as
keys, no two of which are equal. -/
inductive IsDecoded : Value → Prop where
  | null : IsDecoded .null
  | bool (b : Bool) : IsDecoded (.bool b)
  | int {n : Int} (short : digitCount n.natAbs ≤ integerDigitLimit) : IsDecoded (.int n)
  | float (x : Double) : IsDecoded (.float x)
  | text (t : Text) : IsDecoded (.text t)
  | list {items : List Value} (decoded : ∀ v ∈ items, IsDecoded v) : IsDecoded (.list items)
  | mapping {entries : List (Key × Value)} (distinct : (entries.map (·.1)).Nodup)
    (named : ∀ e ∈ entries, ∃ t, e.1 = .name t) (decoded : ∀ e ∈ entries, IsDecoded e.2) :
    IsDecoded (.mapping entries)

lemma IsDecoded.get? {es : Entries} {name : Text} {v : Value} (h : (Value.mapping es).IsDecoded)
    (hget : es.get? name = some v) : v.IsDecoded := by
  cases h with
  | mapping distinct named decoded =>
    obtain ⟨e, he, rfl⟩ := Option.map_eq_some_iff.1 hget
    exact decoded e (List.mem_of_find?_eq_some he)

theorem IsDecoded.plain {v : Value} (h : v.IsDecoded) : v.plain.IsDecoded := by
  induction h with
  | null => exact .null
  | bool b => exact .bool b
  | int short => exact .int short
  | float x =>
    cases x with
    | finite x => exact .float _
    | _ => exact .null
  | text t => exact .text t
  | list _ ih =>
    rw [Value.plain, plainAll_eq_map]
    refine .list fun v hv => ?_
    obtain ⟨v', hv', rfl⟩ := List.mem_map.1 hv
    exact ih v' hv'
  | @mapping entries distinct named _ ih =>
    -- the keys are texts, which are their own texts in a record
    have hkeys : (plainEntries entries).map (·.1) = entries.map (·.1) := by
      rw [plainEntries_eq_map, List.map_map]
      refine List.map_congr_left fun e he => ?_
      obtain ⟨t, ht⟩ := named e he
      rw [Function.comp_apply, ht, recordKey]
    refine .mapping (hkeys ▸ distinct) ?_ ?_
    · intro e he
      rw [plainEntries_eq_map] at he
      obtain ⟨e', -, rfl⟩ := List.mem_map.1 he
      exact ⟨_, rfl⟩
    · intro e he
      rw [plainEntries_eq_map] at he
      obtain ⟨e', he', rfl⟩ := List.mem_map.1 he
      exact ih e' he'

/-- There is nothing to be merged in a value that a JSON text can say. -/
lemma IsDecoded.merged_eq {v : Value} (h : v.IsDecoded) : v.merged = v := by
  induction h with
  | list _ ih =>
    rw [merged, mergedAll_eq_map, List.map_congr_left ih]
    simp
  | @mapping entries distinct _ _ ih =>
    have hentries : mergedEntries entries = entries := by
      rw [mergedEntries_eq_map]
      refine (List.map_congr_left fun e he => ?_).trans (List.map_id entries)
      rw [ih e he]
      rfl
    rw [merged, hentries, Entries.ofList_of_nodup distinct]
  | _ => rfl

lemma IsDecoded.dump_eq {v : Value} (h : v.IsDecoded) : v.dump = v.plain := h.plain.merged_eq

/-- A value that a JSON text can say can be reduced exactly if its reduction can. -/
lemma IsDecoded.plainFault?_plain_iff {v : Value} (h : v.IsDecoded) :
    plainFault? encoded levels v.plain = none ↔ plainFault? encoded levels v = none := by
  induction h generalizing levels with
  | float x => cases x <;> cases levels <;> rfl
  | list _ ih =>
    cases levels with
    | zero => exact Iff.rfl
    | succ n =>
      rw [Value.plain, plainAll_eq_map, plainFault?_list, plainFault?_list, List.forall_mem_map]
      exact forall₂_congr fun v hv => ih v hv
  | mapping _ named _ ih =>
    cases levels with
    | zero => exact Iff.rfl
    | succ n =>
      rw [Value.plain, plainEntries_eq_map, plainFault?_mapping, plainFault?_mapping,
        List.forall_mem_map]
      refine forall₂_congr fun e he => ?_
      obtain ⟨t, ht⟩ := named e he
      rw [ih e he, ht]
      rfl
  | _ => exact Iff.rfl

/-! ## Records -/

variable {fields : List (String × Value)}

lemma isPlain_record : IsPlain (record fields) ↔ ∀ f ∈ fields, IsPlain f.2 := by
  rw [record, isPlain_mapping, List.forall_mem_map]
  exact forall₂_congr fun f _ => and_iff_right ⟨_, rfl⟩

lemma plainFault?_record :
    plainFault? encoded (levels + 1) (record fields) = none
      ↔ ∀ f ∈ fields, plainFault? encoded levels f.2 = none := by
  rw [record, plainFault?_mapping, List.forall_mem_map]
  exact forall₂_congr fun f _ => and_iff_right (keyFault?_ofChars _)

lemma plain_record (fields : List (String × Value)) :
    (record fields).plain = record (fields.map fun f => (f.1, f.2.plain)) := by
  rw [record, plain, plainEntries_eq_map, record, List.map_map, List.map_map]
  rfl

/-- The keys of a record are distinct if the names of its members are, whatever its values. -/
lemma nodup_keys (hdistinct : (fields.map (·.1)).Nodup) (f : String × Value → Value) :
    ((fields.map fun field => (Key.name field.1, f field)).map (·.1)).Nodup := by
  have hkeys : (fields.map fun field => (Key.name field.1, f field)).map (·.1)
      = (fields.map (·.1)).map fun name : String => Key.name name := by
    rw [List.map_map, List.map_map]
    rfl
  have hinjective : Function.Injective fun name : String => Key.name name := fun name name' heq =>
    Text.ofString_injective (Key.name.inj heq)
  rw [hkeys]
  exact hdistinct.map hinjective

/-- The members of a record are dumped one by one. -/
lemma dump_record (hdistinct : (fields.map (·.1)).Nodup) :
    (record fields).dump = record (fields.map fun f => (f.1, f.2.dump)) := by
  have hplain : (record fields).plain
      = .mapping (fields.map fun f => (Key.name f.1, f.2.plain)) := by
    rw [plain_record, record, List.map_map]
    rfl
  have hmerged : mergedEntries (fields.map fun f => (Key.name f.1, f.2.plain))
      = fields.map fun f => (Key.name f.1, f.2.dump) := by
    rw [mergedEntries_eq_map, List.map_map]
    rfl
  have hkeys : ((fields.map fun f => (Key.name f.1, f.2.dump)).map (·.1)).Nodup :=
    nodup_keys hdistinct fun f => f.2.dump
  rw [dump, hplain, merged, hmerged, Entries.ofList_of_nodup hkeys, record, List.map_map]
  rfl

lemma isDecoded_record (hdistinct : (fields.map (·.1)).Nodup)
    (h : ∀ f ∈ fields, f.2.IsDecoded) : (record fields).IsDecoded := by
  refine .mapping (nodup_keys hdistinct fun f => f.2) ?_ ?_
  · intro e he
    obtain ⟨f, -, rfl⟩ := List.mem_map.1 he
    exact ⟨_, rfl⟩
  · intro e he
    obtain ⟨f, hf, rfl⟩ := List.mem_map.1 he
    exact h f hf

lemma IsDecoded.ofText? (t : Option Text) : (Value.ofText? t).IsDecoded := by
  cases t with
  | none => exact .null
  | some t => exact .text t

lemma plain_ofText? (t : Option Text) : (Value.ofText? t).plain = Value.ofText? t := by
  cases t <;> rfl

end Shortlist.Value
