import Mathlib.Data.List.Nodup
import Shortlist.Store.Memory

/-!
# Sound collections in memory

The index of a sound collection says what a search of its records would say.  A sound collection
takes a record exactly if its id is not taken, and is sound afterwards.

A collection is built with both parts at once and nothing ever removes a record, so soundness is an
invariant of insertion alone.  Once it is known, the index need not be mentioned any more: what an
insertion does is said by the list of the records (`IsSound.insert_eq`).
-/

namespace Shortlist.MemoryCollection

variable {α : Type} [Record α] {m m' : MemoryCollection α} {a : α}

/-- A collection whose ids are distinct and whose index finds what a search of the records finds. -/
structure IsSound (m : MemoryCollection α) : Prop where
  nodup : (m.records.map Record.id).Nodup
  get?_eq : ∀ id, m.get? id = m.records.find? fun a => Record.id a = id

lemma isSound_empty : (empty : MemoryCollection α).IsSound where
  nodup := List.nodup_nil
  get?_eq id := by simp [empty, get?]

lemma insert_eq_ok :
    m.insert a = .ok m'
      ↔ m.index.contains (Record.id a) = false
        ∧ m' = ⟨m.records ++ [a], m.index.insert (Record.id a) a⟩ := by
  rw [insert]
  split
  · rename_i h
    simp [h]
  · rename_i h
    simp [h, eq_comm]

/-- Whether an id is taken can be seen from the records. -/
lemma IsSound.contains_eq (hm : m.IsSound) (id : Text) :
    m.index.contains id = m.records.any fun r => Record.id r = id := by
  have hget : m.index[id]? = m.records.find? fun r => Record.id r = id := hm.get?_eq id
  rw [Std.HashMap.contains_eq_isSome_getElem?, hget, List.isSome_find?]

/-- A sound collection takes exactly the records whose ids are new. -/
lemma IsSound.insert_eq (hm : m.IsSound) (a : α) :
    m.insert a = if m.records.any (fun r => Record.id r = Record.id a)
      then .error (.duplicate (Record.id a))
      else .ok ⟨m.records ++ [a], m.index.insert (Record.id a) a⟩ := by
  rw [insert]
  simp only [hm.contains_eq]

/-- A sound collection stays sound. -/
lemma IsSound.insert (hm : m.IsSound) (h : m.insert a = .ok m') :
    (∀ r ∈ m.records, Record.id r ≠ Record.id a) ∧ m'.records = m.records ++ [a] ∧ m'.IsSound := by
  obtain ⟨hcontains, rfl⟩ := insert_eq_ok.1 h
  have hnew : ∀ r ∈ m.records, Record.id r ≠ Record.id a := by
    rw [hm.contains_eq] at hcontains
    simpa using hcontains
  refine ⟨hnew, rfl, ?_, fun id => ?_⟩
  · rw [List.map_append, List.nodup_append]
    refine ⟨hm.nodup, by simp, ?_⟩
    simpa using hnew
  · have hget : m.index[id]? = m.records.find? fun r => Record.id r = id := hm.get?_eq id
    rw [get?, Std.HashMap.getElem?_insert, List.find?_append, ← hget]
    by_cases hid : Record.id a = id
    · subst hid
      have hnone : m.index[Record.id a]? = none := by
        rw [hget, List.find?_eq_none]
        simpa using hnew
      simp [hnone]
    · simp [hid]

/-- A sound collection finds every record that it holds. -/
lemma IsSound.get?_id (hm : m.IsSound) (ha : a ∈ m.records) :
    m.get? (Record.id a) = some a := by
  rw [hm.get?_eq]
  obtain ⟨b, hb⟩ : ∃ b, m.records.find? (fun b => Record.id b = Record.id a) = some b := by
    rw [← Option.isSome_iff_exists, List.find?_isSome]
    exact ⟨a, ha, by simp⟩
  have hid : Record.id b = Record.id a := by simpa using List.find?_some hb
  rw [hb, List.inj_on_of_nodup_map hm.nodup (List.mem_of_find?_eq_some hb) ha hid]

end Shortlist.MemoryCollection
