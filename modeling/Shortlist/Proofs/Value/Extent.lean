import Shortlist.Proofs.Value.Plain

/-!
# How deep a value goes and which texts are in it

A value that a JSON text can say can be reduced to something that is encoded exactly if no more
values stand inside one another than there are levels, and no surrogate is part of a text in it or
of a key (`Value.plainFault?_eq_none_iff`).  Both are said here without the reduction: by the depth
of the value, and by the list of its texts.
-/

namespace Shortlist.Value

mutual

/-- The number of values that stand inside one another, the value itself included. -/
def depth : Value → Nat
  | .list items => depthAll items + 1
  | .pair first second => max first.depth second.depth + 1
  | .set members => if members.isEmpty then 1 else 2
  | .mapping entries => depthEntries entries + 1
  | .null | .bool _ | .int _ | .float _ | .text _ | .bytes _ | .date _ | .timestamp _
  | .loop .. => 1

/-- The greatest depth in a list. -/
def depthAll : List Value → Nat
  | [] => 0
  | v :: rest => max v.depth (depthAll rest)

/-- The greatest depth of a value in a mapping. -/
def depthEntries : List (Key × Value) → Nat
  | [] => 0
  | (_, v) :: rest => max v.depth (depthEntries rest)

end

/-- The text that a key is. -/
def keyTexts : Key → List Text
  | .name t => [t]
  | _ => []

mutual

/-- The texts in a value: itself, those of its members, and those that are keys. -/
def texts : Value → List Text
  | .text t => [t]
  | .list items => textsAll items
  | .pair first second => first.texts ++ second.texts
  | .set members => members.flatMap keyTexts
  | .mapping entries => textsEntries entries
  | .null | .bool _ | .int _ | .float _ | .bytes _ | .date _ | .timestamp _ | .loop .. => []

/-- The texts in the values of a list. -/
def textsAll : List Value → List Text
  | [] => []
  | v :: rest => v.texts ++ textsAll rest

/-- The texts in the keys and values of a mapping. -/
def textsEntries : List (Key × Value) → List Text
  | [] => []
  | (k, v) :: rest => keyTexts k ++ v.texts ++ textsEntries rest

end

/-- No surrogate is part of a text in the value. -/
def IsEncodable (v : Value) : Prop := ∀ t ∈ v.texts, ∀ p ∈ t.points, p.isSurrogate = false

/-! ## By the members of lists and mappings -/

variable {levels : Nat} {items : List Value} {entries : List (Key × Value)} {t : Text}

lemma depth_list_le : depth (.list items) ≤ levels + 1 ↔ ∀ v ∈ items, v.depth ≤ levels := by
  rw [depth, Nat.add_le_add_iff_right]
  induction items with
  | nil => simp [depthAll]
  | cons v rest ih => rw [depthAll, Nat.max_le, ih, List.forall_mem_cons]

lemma depth_mapping_le :
    depth (.mapping entries) ≤ levels + 1 ↔ ∀ e ∈ entries, e.2.depth ≤ levels := by
  rw [depth, Nat.add_le_add_iff_right]
  induction entries with
  | nil => simp [depthEntries]
  | cons e rest ih => rw [depthEntries, Nat.max_le, ih, List.forall_mem_cons]

lemma isEncodable_text :
    IsEncodable (.text t) ↔ ∀ p ∈ t.points, p.isSurrogate = false := by
  simp [IsEncodable, texts]

lemma isEncodable_list : IsEncodable (.list items) ↔ ∀ v ∈ items, v.IsEncodable := by
  unfold IsEncodable
  rw [texts]
  induction items with
  | nil => simp [textsAll]
  | cons v rest ih => rw [textsAll, List.forall_mem_append, ih, List.forall_mem_cons]

lemma isEncodable_mapping :
    IsEncodable (.mapping entries)
      ↔ ∀ e ∈ entries, (∀ t ∈ keyTexts e.1, ∀ p ∈ t.points, p.isSurrogate = false)
        ∧ e.2.IsEncodable := by
  unfold IsEncodable
  rw [texts]
  induction entries with
  | nil => simp [textsEntries]
  | cons e rest ih =>
    rw [textsEntries, List.forall_mem_append, List.forall_mem_append, ih, List.forall_mem_cons]

/-! ## Records -/

variable {fields : List (String × Value)}

lemma depth_record_le : depth (record fields) ≤ levels + 1 ↔ ∀ f ∈ fields, f.2.depth ≤ levels := by
  rw [record, depth_mapping_le, List.forall_mem_map]

/-- The depth of a value that is a text or null. -/
lemma depth_ofText? (t : Option Text) : (Value.ofText? t).depth = 1 := by
  cases t <;> rfl

/-! ## Values that can be reduced and encoded -/

lemma textFault?_encoded (t : Text) :
    textFault? true t = none ↔ ∀ p ∈ t.points, p.isSurrogate = false := by
  rw [textFault?, if_pos rfl, Option.map_eq_none_iff, Text.unencodable?_eq_none]

lemma keyFault?_name (t : Text) :
    keyFault? (.name t) = none ↔ ∀ p ∈ t.points, p.isSurrogate = false := by
  rw [keyFault?, Option.map_eq_none_iff, Text.unencodable?_eq_none]

/-- A value that a JSON text can say can be reduced and encoded exactly if it is not too deep and no
surrogate is part of a text in it. -/
theorem plainFault?_eq_none_iff {v : Value} (h : v.IsDecoded) :
    v.plainFault? true levels = none ↔ v.depth ≤ levels ∧ v.IsEncodable := by
  induction h generalizing levels with
  | null | bool _ | int _ | float _ =>
    cases levels <;> simp [plainFault?, depth, IsEncodable, texts]
  | text t =>
    cases levels with
    | zero => simp [plainFault?, depth]
    | succ n =>
      rw [plainFault?, textFault?_encoded, isEncodable_text]
      simp [depth]
  | list _ ih =>
    cases levels with
    | zero => simp [plainFault?, depth]
    | succ n =>
      rw [plainFault?_list, depth_list_le, isEncodable_list, ← forall₂_and]
      exact forall₂_congr fun v hv => ih v hv
  | mapping _ named _ ih =>
    cases levels with
    | zero => simp [plainFault?, depth]
    | succ n =>
      rw [plainFault?_mapping, depth_mapping_le, isEncodable_mapping, ← forall₂_and]
      refine forall₂_congr fun e he => ?_
      -- a key is a text, which counts among the texts but takes no level
      obtain ⟨t, ht⟩ := named e he
      rw [ih e he, ht, keyFault?_name]
      simp only [keyTexts, List.mem_singleton, forall_eq]
      tauto

end Shortlist.Value
