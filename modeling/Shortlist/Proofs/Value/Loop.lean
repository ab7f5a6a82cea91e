import Mathlib.Tactic.Lemma
import Shortlist.Proofs.Value.Plain
import Shortlist.Value.Loop

/-!
# Copies of values that come round

A copy holds originals where a value comes round to itself.  So the copy of a value is that value
exactly if nowhere, as deep as it is gone through, it comes round to what is around it
(`Value.copied_eq_iff`); and whatever stands on its own is left as it is when it is put on its own
once more (`Value.opened_mapping`).  A copy always stands on its own (`Value.isClosed_copied`).

As with the reduction of values, what a definition says of the lists in a value is first said of
their members, and then one induction over a value does.
-/

namespace Shortlist.Value

/-- A value that comes round to nothing that it stands in. -/
def IsClosed (v : Value) : Prop := v.refersBeyond 0 = false

/-- A value that comes round to what is around it at a place that is gone through, or within what is
no longer gone through. -/
inductive ComesRound : Nat → Value → Prop where
  | loop {levels : Nat} (isMapping : Bool) (up : Nat) : ComesRound levels (.loop isMapping up)
  | beneath {v : Value} (h : v.refersBeyond 0 = true) : ComesRound 0 v
  | list {levels : Nat} {items : List Value} {v : Value} (hv : v ∈ items)
    (h : ComesRound levels v) : ComesRound (levels + 1) (.list items)
  | first {levels : Nat} {first second : Value} (h : ComesRound levels first) :
    ComesRound (levels + 1) (.pair first second)
  | second {levels : Nat} {first second : Value} (h : ComesRound levels second) :
    ComesRound (levels + 1) (.pair first second)
  | mapping {levels : Nat} {entries : List (Key × Value)} {e : Key × Value} (he : e ∈ entries)
    (h : ComesRound levels e.2) : ComesRound (levels + 1) (.mapping entries)

/-! ## Lists and mappings by their members -/

variable {depth levels : Nat} {around items : List Value} {entries : List (Key × Value)}
  {first second v : Value}

lemma refersBeyond_list :
    refersBeyond depth (.list items) = false
      ↔ ∀ v ∈ items, refersBeyond (depth + 1) v = false := by
  rw [refersBeyond]
  induction items with
  | nil => simp [anyRefersBeyond]
  | cons v rest ih => rw [anyRefersBeyond, Bool.or_eq_false_iff, ih, List.forall_mem_cons]

lemma refersBeyond_mapping :
    refersBeyond depth (.mapping entries) = false
      ↔ ∀ e ∈ entries, refersBeyond (depth + 1) e.2 = false := by
  rw [refersBeyond]
  induction entries with
  | nil => simp [anyEntryRefersBeyond]
  | cons e rest ih => rw [anyEntryRefersBeyond, Bool.or_eq_false_iff, ih, List.forall_mem_cons]

lemma refersBeyond_pair :
    refersBeyond depth (.pair first second) = false
      ↔ refersBeyond depth first = false ∧ refersBeyond depth second = false := by
  rw [refersBeyond, Bool.or_eq_false_iff]

lemma closeAll_eq_map (items : List Value) :
    closeAll around depth items = items.map (close around depth) := by
  induction items with
  | nil => rfl
  | cons v rest ih => rw [closeAll, ih, List.map_cons]

lemma closeEntries_eq_map (entries : List (Key × Value)) :
    closeEntries around depth entries = entries.map fun e => (e.1, close around depth e.2) := by
  induction entries with
  | nil => rfl
  | cons e rest ih => rw [closeEntries, ih, List.map_cons]

lemma copyAll_eq_map (items : List Value) :
    copyAll levels around items = items.map (copy levels around) := by
  induction items with
  | nil => rfl
  | cons v rest ih => rw [copyAll, ih, List.map_cons]

lemma copyEntries_eq_map (entries : List (Key × Value)) :
    copyEntries levels around entries = entries.map fun e => (e.1, copy levels around e.2) := by
  induction entries with
  | nil => rfl
  | cons e rest ih => rw [copyEntries, ih, List.map_cons]

lemma map_eq_self_iff {α : Type} {f : α → α} {l : List α} : l.map f = l ↔ ∀ a ∈ l, f a = a := by
  have h := @List.map_inj_left _ _ l f id
  rwa [List.map_id] at h

lemma map_entries_eq_self_iff {f : Value → Value} :
    (entries.map fun e => (e.1, f e.2)) = entries ↔ ∀ e ∈ entries, f e.2 = e.2 := by
  rw [map_eq_self_iff]
  exact forall₂_congr fun e _ => by rw [Prod.ext_iff]; simp

/-! ## Values on their own -/

lemma refersBeyond_mono {more : Nat} (hle : depth ≤ more) (h : refersBeyond depth v = false) :
    refersBeyond more v = false := by
  induction v using Value.induction generalizing depth more with
  | loop isMapping up =>
    simp only [refersBeyond, decide_eq_false_iff_not] at h ⊢
    omega
  | list items ih =>
    rw [refersBeyond_list] at h ⊢
    exact fun v hv => ih v hv (Nat.succ_le_succ hle) (h v hv)
  | pair first second hfirst hsecond =>
    rw [refersBeyond_pair] at h ⊢
    exact ⟨hfirst hle h.1, hsecond hle h.2⟩
  | mapping entries ih =>
    rw [refersBeyond_mapping] at h ⊢
    exact fun e he => ih e he (Nat.succ_le_succ hle) (h e he)
  | _ => rfl

lemma IsClosed.not_refersBeyond (h : v.IsClosed) (depth : Nat) : refersBeyond depth v = false :=
  refersBeyond_mono (Nat.zero_le depth) h

/-- What is put in stands on its own, and so nothing beyond is left to come round to. -/
lemma refersBeyond_close (haround : ∀ w ∈ around, w.IsClosed) (depth : Nat) (v : Value) :
    refersBeyond depth (close around depth v) = false := by
  induction v using Value.induction generalizing depth with
  | loop isMapping up =>
    rw [close]
    -- a loop that ends inside is kept; one that leads beyond is replaced by what is there
    split
    · simp only [refersBeyond, decide_eq_false_iff_not]
      omega
    · rw [List.getD_eq_getElem?_getD]
      cases hget : around[up - depth]? with
      | none => rfl
      | some w => exact (haround w (List.mem_of_getElem? hget)).not_refersBeyond depth
  | list items ih =>
    rw [close, closeAll_eq_map, refersBeyond_list, List.forall_mem_map]
    exact fun v hv => ih v hv (depth + 1)
  | pair first second hfirst hsecond =>
    rw [close, refersBeyond_pair]
    exact ⟨hfirst depth, hsecond depth⟩
  | mapping entries ih =>
    rw [close, closeEntries_eq_map, refersBeyond_mapping, List.forall_mem_map]
    exact fun e he => ih e he (depth + 1)
  | _ => rfl

/-- Where there is something to put in, the value changes: no loop stands on its own. -/
lemma close_eq_self_iff (haround : ∀ w ∈ around, w.IsClosed) :
    close around depth v = v ↔ refersBeyond depth v = false := by
  induction v using Value.induction generalizing depth with
  | loop isMapping up =>
    rw [close, refersBeyond, decide_eq_false_iff_not, Nat.not_le]
    split
    · simpa
    · simp only [*, iff_false, List.getD_eq_getElem?_getD]
      cases hget : around[up - depth]? with
      | none => simp
      | some w =>
        rintro rfl
        have hloop : IsClosed (.loop isMapping up) := haround _ (List.mem_of_getElem? hget)
        simp [IsClosed, refersBeyond] at hloop
  | list items ih =>
    rw [close, closeAll_eq_map, refersBeyond_list, list.injEq, map_eq_self_iff]
    exact forall₂_congr fun v hv => ih v hv
  | pair first second hfirst hsecond =>
    rw [close, refersBeyond_pair, pair.injEq, hfirst, hsecond]
  | mapping entries ih =>
    rw [close, closeEntries_eq_map, refersBeyond_mapping, mapping.injEq, map_entries_eq_self_iff]
    exact forall₂_congr fun e he => ih e he
  | _ => simp [close, refersBeyond]

/-- What stands on its own already is left as it is in a mapping. -/
lemma opened_mapping (h : ∀ e ∈ entries, e.2.IsClosed) :
    opened (.mapping entries) = .mapping entries := by
  have haround : ∀ w ∈ [Value.mapping entries], w.IsClosed := by
    simp only [List.mem_singleton, forall_eq, IsClosed, refersBeyond_mapping]
    exact fun e he => (h e he).not_refersBeyond 1
  rw [opened, closeEntries_eq_map, mapping.injEq, map_entries_eq_self_iff]
  exact fun e he => (close_eq_self_iff haround).2 (h e he)

lemma opened_record {fields : List (String × Value)} (h : ∀ f ∈ fields, f.2.IsClosed) :
    (record fields).opened = record fields :=
  opened_mapping (List.forall_mem_map.2 h)

lemma isClosed_record {fields : List (String × Value)} (h : ∀ f ∈ fields, f.2.IsClosed) :
    (record fields).IsClosed := by
  rw [IsClosed, record, refersBeyond_mapping, List.forall_mem_map]
  exact fun f hf => (h f hf).not_refersBeyond 1

/-! ## Copies -/

lemma copy_list (around : List Value) :
    copy (levels + 1) around (.list items)
      = .list (items.map (copy levels ((Value.list items).close around 0 :: around))) := by
  rw [copy, copyAll_eq_map]

lemma copy_mapping (around : List Value) :
    copy (levels + 1) around (.mapping entries)
      = .mapping (entries.map fun e =>
        (e.1, copy levels ((Value.mapping entries).close around 0 :: around) e.2)) := by
  rw [copy, copyEntries_eq_map]

/-- The originals around a copy stand on their own, and so do the new ones. -/
lemma forall_isClosed_cons (haround : ∀ w ∈ around, w.IsClosed) (v : Value) :
    ∀ w ∈ v.close around 0 :: around, w.IsClosed :=
  List.forall_mem_cons.2 ⟨refersBeyond_close haround 0 v, haround⟩

lemma isClosed_copy (haround : ∀ w ∈ around, w.IsClosed) (levels : Nat) (v : Value) :
    (v.copy levels around).IsClosed := by
  induction v using Value.induction generalizing levels around with
  | list items ih =>
    cases levels with
    | zero => exact refersBeyond_close haround 0 _
    | succ levels =>
      rw [copy_list, IsClosed, refersBeyond_list, List.forall_mem_map]
      exact fun v hv => (ih v hv (forall_isClosed_cons haround _) levels).not_refersBeyond 1
  | pair first second hfirst hsecond =>
    cases levels with
    | zero => exact refersBeyond_close haround 0 _
    | succ levels =>
      rw [copy, IsClosed, refersBeyond_pair]
      exact ⟨hfirst haround levels, hsecond haround levels⟩
  | mapping entries ih =>
    cases levels with
    | zero => exact refersBeyond_close haround 0 _
    | succ levels =>
      rw [copy_mapping, IsClosed, refersBeyond_mapping, List.forall_mem_map]
      exact fun e he => (ih e he (forall_isClosed_cons haround _) levels).not_refersBeyond 1
  | _ => cases levels <;> exact refersBeyond_close haround 0 _

theorem isClosed_copied (v : Value) : v.copied.IsClosed := isClosed_copy (by simp) _ v

/-- Where nothing is gone through any more, all that matters is whether something is put in. -/
lemma comesRound_zero : v.ComesRound 0 ↔ v.refersBeyond 0 = true := by
  constructor
  · rintro (⟨_, _⟩ | h)
    · rfl
    · exact h
  · exact .beneath

lemma close_eq_self_iff_not_comesRound (haround : ∀ w ∈ around, w.IsClosed) :
    v.close around 0 = v ↔ ¬v.ComesRound 0 := by
  rw [close_eq_self_iff haround, comesRound_zero, Bool.not_eq_true]

/-- A copy is like the value exactly if no loop has to give way to an original. -/
lemma copy_eq_self_iff (haround : ∀ w ∈ around, w.IsClosed) :
    v.copy levels around = v ↔ ¬v.ComesRound levels := by
  -- each member is copied with one more value around it, which stands on its own as well
  induction v using Value.induction generalizing levels around with
  | loop isMapping up =>
    have hcopy :
        copy levels around (.loop isMapping up) = (Value.loop isMapping up).close around 0 := by
      cases levels <;> rfl
    rw [hcopy, close_eq_self_iff haround]
    simp [refersBeyond, ComesRound.loop]
  | list items ih =>
    cases levels with
    | zero => exact close_eq_self_iff_not_comesRound haround
    | succ levels =>
      rw [copy_list, list.injEq, map_eq_self_iff]
      constructor
      · rintro h (_ | _ | ⟨hv, hround⟩)
        exact (ih _ hv (forall_isClosed_cons haround _)).1 (h _ hv) hround
      · exact fun h v hv => (ih v hv (forall_isClosed_cons haround _)).2 fun hround =>
          h (.list hv hround)
  | pair first second hfirst hsecond =>
    cases levels with
    | zero => exact close_eq_self_iff_not_comesRound haround
    | succ levels =>
      rw [copy, pair.injEq, hfirst haround, hsecond haround]
      constructor
      · rintro ⟨hone, hother⟩ (_ | _ | _ | hround | hround)
        · exact hone hround
        · exact hother hround
      · exact fun h => ⟨fun hround => h (.first hround), fun hround => h (.second hround)⟩
  | mapping entries ih =>
    cases levels with
    | zero => exact close_eq_self_iff_not_comesRound haround
    | succ levels =>
      rw [copy_mapping, mapping.injEq, map_entries_eq_self_iff]
      constructor
      · rintro h (_ | _ | _ | _ | _ | ⟨he, hround⟩)
        exact (ih _ he (forall_isClosed_cons haround _)).1 (h _ he) hround
      · exact fun h e he => (ih e he (forall_isClosed_cons haround _)).2 fun hround =>
          h (.mapping he hround)
  | _ =>
    cases levels with
    | zero => exact close_eq_self_iff_not_comesRound haround
    | succ levels => exact iff_of_true rfl nofun

/-- The copy of a value is like it exactly if it does not come round. -/
theorem copied_eq_iff : v.copied = v ↔ ¬v.ComesRound depthLimit := copy_eq_self_iff (by simp)

/-- The copy of a list that holds nothing but itself holds that list. -/
example : copied (.list [.loop false 0]) = .list [.list [.loop false 0]] := rfl

end Shortlist.Value
