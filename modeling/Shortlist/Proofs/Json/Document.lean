import Shortlist.Proofs.Json.RoundTrip
import Shortlist.Proofs.Outcome
import Shortlist.Proofs.Text.Lines
import Shortlist.Schema.File

/-!
# Documents in files

A value that has been reduced and merged, and written to a file, is what the file says
(`readDocument_document`).  Three things are known about such a value because it could be written:
its integers are not too long, as the writer refuses the others; no two keys of a mapping are
equal, as they have been merged; and it holds no surrogates, as the text of the document has
bytes.

So reading back takes no hypothesis on the value but that it is plain, and whether it can be written
is what has to be found out.  There is a document with bytes exactly if the integers are short
enough, nothing is too deep, and no text holds a surrogate (`Json.exists_document_iff`).
-/

namespace Shortlist

namespace Json

open CodePoint (chars ofChar)
open Value (plainFault? IsPlain IsDecoded)

variable {style : Style} {level levels n : Nat} {items : List Value}
  {entries : List (Key × Value)} {v : Value}

/-! ## Values that can be written -/

lemma writable_list : writable (.list items) = .ok () ↔ ∀ v ∈ items, writable v = .ok () := by
  rw [writable]
  induction items with
  | nil => simp [writableItems]
  | cons v rest ih =>
    rw [writableItems]
    cases hv : writable v with
    | error fault => simp [bind, Except.bind, hv]
    | ok u => simpa [bind, Except.bind, hv] using ih

lemma writable_mapping :
    writable (.mapping entries) = .ok ()
      ↔ ∀ e ∈ entries, writableKey e.1 = .ok () ∧ writable e.2 = .ok () := by
  rw [writable]
  induction entries with
  | nil => simp [writableMembers]
  | cons e rest ih =>
    obtain ⟨k, v⟩ := e
    rw [writableMembers]
    cases hk : writableKey k with
    | error fault => simp [bind, Except.bind, hk]
    | ok u =>
      cases hv : writable v with
      | error fault => simp [bind, Except.bind, hk, hv]
      | ok u => simpa [bind, Except.bind, hk, hv] using ih

lemma writable_record {fields : List (String × Value)} :
    writable (.record fields) = .ok () ↔ ∀ f ∈ fields, writable f.2 = .ok () := by
  rw [Value.record, writable_mapping, List.forall_mem_map]
  exact forall₂_congr fun f _ => and_iff_right rfl

lemma isDecoded_int {i : Int} (h : writable (.int i) = .ok ()) : (Value.int i).IsDecoded := by
  refine .int ?_
  rw [writable] at h
  split at h
  · cases h
  · omega

/-- A value that a JSON text can say can be written. -/
lemma writable_of_isDecoded (h : v.IsDecoded) : writable v = .ok () := by
  induction h with
  | int short =>
    rw [writable, if_neg (by omega)]
  | list _ ih => exact writable_list.2 ih
  | mapping _ named _ ih =>
    rw [writable_mapping]
    intro e he
    obtain ⟨t, ht⟩ := named e he
    exact ⟨by rw [ht]; rfl, ih e he⟩
  | _ => rfl

/-- A merged value that can be written is one that a document can say. -/
lemma isDecoded_merged (hplain : v.IsPlain) (h : writable v.merged = .ok ()) :
    v.merged.IsDecoded := by
  induction v using Value.induction with
  | null => exact .null
  | bool b => exact .bool b
  | int i => exact isDecoded_int h
  | float x => exact .float x
  | text t => exact .text t
  | list items ih =>
    rw [Value.isPlain_list] at hplain
    rw [Value.merged, Value.mergedAll_eq_map, writable_list] at h
    rw [Value.merged, Value.mergedAll_eq_map]
    refine .list fun w hw => ?_
    have hwritable := h w hw
    obtain ⟨v, hv, rfl⟩ := List.mem_map.1 hw
    exact ih v hv (hplain v hv) hwritable
  | mapping entries ih =>
    rw [Value.isPlain_mapping] at hplain
    rw [Value.merged, writable_mapping] at h
    rw [Value.merged]
    -- merging makes the keys distinct; they are texts because the value is plain
    refine .mapping (Entries.nodup_keys_ofList _) (fun e he => ?_) fun e he => ?_
    · obtain ⟨e', he', rfl⟩ := Value.exists_of_mem_merged he
      exact (hplain e' he').1
    · have hwritable := (h e he).2
      obtain ⟨e', he', rfl⟩ := Value.exists_of_mem_merged he
      exact ih e' he' (hplain e' he').2 hwritable
  | bytes _ | date _ | timestamp _ | pair _ _ _ _ | set _ | loop _ _ => cases hplain

/-! ## Values whose text has bytes -/

lemma mem_writeItems {p : CodePoint} (hv : v ∈ items) (hp : p ∈ write style level v) :
    p ∈ writeItems style level items := by
  induction items with
  | nil => cases hv
  | cons w rest ih =>
    rw [writeItems_cons]
    rcases List.mem_cons.1 hv with rfl | hv
    · exact List.mem_append_left _ hp
    · rw [if_neg (List.ne_nil_of_mem hv)]
      exact List.mem_append_right _
        (List.mem_cons_of_mem _ (List.mem_append_right _ (ih hv)))

lemma mem_writeMembers {p : CodePoint} {e : Key × Value} (he : e ∈ entries)
    (hp : p ∈ write style level e.2) : p ∈ writeMembers style level entries := by
  induction entries with
  | nil => cases he
  | cons e' rest ih =>
    obtain ⟨k, w⟩ := e'
    rw [writeMembers_cons]
    refine List.mem_append_right _ (List.mem_cons_of_mem _ (List.mem_append_right _ ?_))
    rcases List.mem_cons.1 he with rfl | he
    · exact List.mem_append_left _ hp
    · rw [if_neg (List.ne_nil_of_mem he)]
      exact List.mem_append_right _
        (List.mem_cons_of_mem _ (List.mem_append_right _ (ih he)))

/-- A surrogate stands for itself in a string. -/
lemma mem_writeString {t : Text} {p : CodePoint} (hp : p ∈ t.points)
    (hsurrogate : p.isSurrogate = true) : p ∈ writeString t := by
  have hne (c : Char) : p ≠ ofChar c := by
    rintro rfl
    rw [CodePoint.isSurrogate_ofChar] at hsurrogate
    cases hsurrogate
  have hlow : ¬p.value < 0x20 := by
    simp only [CodePoint.isSurrogate, Bool.and_eq_true, decide_eq_true_eq] at hsurrogate
    omega
  have hself : escapePoint p = [p] := by simp [escapePoint, hne, hlow]
  rw [writeString]
  refine List.mem_append_left _ (List.mem_cons_of_mem _ (List.mem_flatMap.2 ⟨p, hp, ?_⟩))
  rw [hself]
  exact List.mem_singleton_self p

/-- A plain value whose text holds no surrogates can be reduced where texts have to be encoded. -/
lemma plainFault?_of_write (hplain : v.IsPlain) (h : plainFault? false n v = none)
    (hwrite : ∀ p ∈ write style level v, p.isSurrogate = false) : plainFault? true n v = none := by
  -- every text of the value is part of what is written, so the value inherits the condition
  induction v using Value.induction generalizing n level with
  | text t =>
    obtain ⟨n, rfl⟩ := Value.exists_level h
    have ht : t.unencodable? = none := by
      rw [Text.unencodable?_eq_none]
      intro p hp
      by_contra hsurrogate
      rw [Bool.not_eq_false] at hsurrogate
      exact absurd hsurrogate (by rw [hwrite p (mem_writeString hp hsurrogate)]; simp)
    rw [plainFault?, Value.textFault?, if_pos rfl, ht, Option.map_none]
  | list items ih =>
    obtain ⟨n, rfl⟩ := Value.exists_level h
    rw [Value.isPlain_list] at hplain
    rw [Value.plainFault?_list] at h ⊢
    intro v hv
    have hitem : ∀ p ∈ write style (level + 1) v, p.isSurrogate = false := by
      intro p hp
      refine hwrite p ?_
      rw [write_list (List.ne_nil_of_mem hv)]
      exact List.mem_cons_of_mem _ (List.mem_append_right _
        (List.mem_append_left _ (mem_writeItems hv hp)))
    exact ih v hv (hplain v hv) (h v hv) hitem
  | mapping entries ih =>
    obtain ⟨n, rfl⟩ := Value.exists_level h
    rw [Value.isPlain_mapping] at hplain
    rw [Value.plainFault?_mapping] at h ⊢
    intro e he
    have hmember : ∀ p ∈ write style (level + 1) e.2, p.isSurrogate = false := by
      intro p hp
      refine hwrite p ?_
      rw [write_mapping (List.ne_nil_of_mem he)]
      exact List.mem_cons_of_mem _ (List.mem_append_right _
        (List.mem_append_left _ (mem_writeMembers he hp)))
    exact ⟨(h e he).1, ih e he (hplain e he).2 (h e he).2 hmember⟩
  | null | bool _ | int _ | float _ =>
    obtain ⟨n, rfl⟩ := Value.exists_level h
    rfl
  | bytes _ | date _ | timestamp _ | pair _ _ _ _ | set _ | loop _ _ => cases hplain

end Json

/-! ## Files -/

namespace Text

lemma encode_eq_ok {t : Text} {bytes : Bytes} :
    t.encode = .ok bytes
      ↔ (∀ p ∈ t.points, p.isSurrogate = false)
        ∧ bytes = encodeUtf8 (CodePoint.chars t.points) := by
  have hbytes : (t.points.flatMap fun p => (p.char?.map String.utf8EncodeChar).getD [])
      = encodeUtf8 (CodePoint.chars t.points) := by
    rw [encodeUtf8, CodePoint.chars]
    induction t.points with
    | nil => rfl
    | cons p ps ih =>
      rw [List.flatMap_cons, ih, List.filterMap_cons]
      cases p.char? <;> rfl
  rw [encode, ← unencodable?_eq_none, hbytes]
  cases t.unencodable? with
  | some fault => simp
  | none => simp [eq_comm]

end Text

open Value (plainFault?) in
/-- The text of a plain value that can be reduced has bytes. -/
lemma Json.encode_write {style : Json.Style} {v : Value} {n level : Nat} (hstyle : style.IsSpaced)
    (hplain : v.IsPlain) (hfault : plainFault? true n v = none) :
    (⟨write style level v⟩ : Text).encode
      = .ok (Text.encodeUtf8 (CodePoint.chars (write style level v))) := by
  refine Text.encode_eq_ok.2 ⟨fun p hp => ?_, rfl⟩
  obtain ⟨c, rfl, -⟩ := isSetOut_write hstyle hplain hfault p hp
  exact CodePoint.isSurrogate_ofChar c

open Value (plainFault?) in
/-- A plain value that can be reduced has a document with bytes exactly if it can be written and
there are no surrogates in it. -/
lemma Json.exists_document_iff {style : Json.Style} {v : Value} {n : Nat} (hstyle : style.IsSpaced)
    (hplain : v.IsPlain) (hfault : plainFault? false n v = none) :
    (∃ text bytes, Json.document style v = .ok text ∧ text.encode = .ok bytes)
      ↔ Json.writable v = .ok () ∧ plainFault? true n v = none := by
  constructor
  · rintro ⟨text, bytes, htext, hbytes⟩
    obtain ⟨_, hwritable, htext⟩ := Except.bind_eq_ok.1 htext
    cases htext
    obtain ⟨hsurrogates, -⟩ := Text.encode_eq_ok.1 hbytes
    exact ⟨hwritable, Json.plainFault?_of_write hplain hfault hsurrogates⟩
  · rintro ⟨hwritable, hencoded⟩
    exact ⟨_, _, Except.bind_eq_ok.2 ⟨(), hwritable, rfl⟩,
      Json.encode_write hstyle hplain hencoded⟩

open Value (plainFault?) in
/-- A file to which a value was written says the value. -/
theorem readDocument_document {style : Json.Style} {v : Value} {n : Nat} {text : Text}
    {bytes : Text.Bytes} (hstyle : style.IsSpaced) (hplain : v.IsPlain) (hdecoded : v.IsDecoded)
    (hfault : plainFault? false n v = none) (hlevels : n ≤ Json.nestingLimit)
    (htext : Json.document style v = .ok text) (hbytes : text.encode = .ok bytes) :
    readDocument bytes = .ok (.ok v) := by
  obtain ⟨-, -, htext⟩ := Except.bind_eq_ok.1 htext
  cases htext
  obtain ⟨hsurrogates, rfl⟩ := Text.encode_eq_ok.1 hbytes
  have hencoded : plainFault? true n v = none := Json.plainFault?_of_write hplain hfault hsurrogates
  have hreturn : '\r' ∉ CodePoint.chars (Json.write style 0 v) := by
    intro hmem
    obtain ⟨p, hp, hchar⟩ := List.mem_filterMap.1 hmem
    obtain ⟨c, rfl, hc⟩ := Json.isSetOut_write hstyle hplain hencoded p hp
    rw [CodePoint.char?_ofChar] at hchar
    cases hchar
    rcases hc with hc | ⟨hc, -⟩ <;> exact absurd hc (by decide)
  rw [readDocument, Text.readText, Text.decodeUtf8_encodeUtf8]
  dsimp only
  rw [Text.unifyNewlines_of_not_mem hreturn,
    Json.parse_write hstyle hplain hdecoded hencoded hlevels]

end Shortlist
