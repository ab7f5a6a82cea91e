import Shortlist.Proofs.Store.Legibility
import Shortlist.Proofs.Store.Memory

/-!
# Collections in memory only grow

A collection in memory holds its records twice: in a list, which gives their order, and in an index
from ids, which is what look-ups and insertions consult.  The two say the same at every moment, so
every operation answers what a search of the list would answer (`MemoryCollection.IsExact`), and an
insertion is refused exactly if the list has a record of the id.

What one operation does to a collection is at most to add a record at the end
(`Collection.perform_memory`).  So whatever operations come after one another, accepted or refused,
the list before is the beginning of the list afterwards (`Collection.memory_append_only`).
-/

namespace Shortlist

variable {α : Type} [Record α] {m m' : MemoryCollection α} {files : Tree}

namespace MemoryCollection

/-! ## Collections of given records -/

/-- Records are added one after another exactly if no id comes twice, and stand in their order
then. -/
lemma IsSound.insertAll (hm : m.IsSound) (as : List α) :
    ((∃ m', as.foldlM MemoryCollection.insert m = .ok m')
        ↔ ((m.records ++ as).map Record.id).Nodup)
      ∧ ∀ m', as.foldlM MemoryCollection.insert m = .ok m' →
        m'.IsSound ∧ m'.records = m.records ++ as := by
  induction as generalizing m with
  | nil =>
    rw [List.append_nil]
    refine ⟨iff_of_true ⟨m, rfl⟩ hm.nodup, fun m' h => ?_⟩
    cases h
    exact ⟨hm, rfl⟩
  | cons a as ih =>
    have hinsert := hm.insert_eq a
    rw [List.foldlM_cons]
    -- the first record that is refused stops the rest, and it makes an id come twice
    by_cases htaken : m.records.any (fun r => Record.id r = Record.id a) = true
    · rw [if_pos htaken] at hinsert
      obtain ⟨r, hr, hid⟩ : ∃ r ∈ m.records, Record.id r = Record.id a := by simpa using htaken
      have htwice : ¬((m.records ++ a :: as).map Record.id).Nodup := by
        rw [List.map_append, List.map_cons, List.nodup_middle, List.nodup_cons]
        exact fun h => h.1 (List.mem_append_left _ (hid ▸ List.mem_map_of_mem hr))
      have hrefused (m' : MemoryCollection α) :
          (m.insert a >>= fun m₁ => as.foldlM MemoryCollection.insert m₁) ≠ .ok m' := by
        rw [hinsert]
        exact nofun
      exact ⟨iff_of_false (fun ⟨m', h⟩ => hrefused m' h) htwice, fun m' h => absurd h (hrefused m')⟩
    · rw [if_neg htaken] at hinsert
      obtain ⟨-, hrecords, hsound⟩ := hm.insert hinsert
      have hih := ih hsound
      rw [hrecords, List.append_assoc, List.singleton_append] at hih
      rw [hinsert]
      exact hih

/-- The first record whose id has come before is the one that is refused. -/
lemma ofList_of_taken {before after : List α} {a : α} (hbefore : (before.map Record.id).Nodup)
    (ha : Record.id a ∈ before.map Record.id) :
    ofList (before ++ a :: after) = .error (.duplicate (Record.id a)) := by
  obtain ⟨hexists, hbuilt⟩ := isSound_empty.insertAll before
  obtain ⟨m, hm⟩ := hexists.2 hbefore
  obtain ⟨hsound, hrecords⟩ := hbuilt m hm
  have htaken : m.records.any (fun r => Record.id r = Record.id a) = true := by
    simpa [hrecords, empty] using ha
  rw [ofList, List.foldlM_append, hm]
  show List.foldlM MemoryCollection.insert m (a :: after) = _
  rw [List.foldlM_cons, hsound.insert_eq, if_pos htaken]
  rfl

/-! ## Operations -/

/-- A collection answers every operation as a search of its list would.  The list is not changed,
unless by an insertion of a record whose id it does not have, which is added at the end. -/
structure IsExact (m : MemoryCollection α) (files : Tree) : Prop where
  nodup : (m.records.map Record.id).Nodup
  list : (Collection.memory m).perform files (.list none)
    = (.ok (.records m.records), .memory m, files)
  filter : ∀ condition, (Collection.memory m).perform files (.list (some condition))
    = (.ok (.records (m.records.filter condition)), .memory m, files)
  get : ∀ id, (Collection.memory m).perform files (.get id)
    = (.ok (.found (m.records.find? fun a => Record.id a = id)), .memory m, files)
  present : ∀ a ∈ m.records, (Collection.memory m).perform files (.get (Record.id a))
    = (.ok (.found (some a)), .memory m, files)
  absent : ∀ id, (Collection.memory m).perform files (.get id)
      = (.ok (.found none), .memory m, files)
    ↔ ∀ a ∈ m.records, Record.id a ≠ id
  size : (Collection.memory m).perform files .size
    = (.ok (.number m.records.length), .memory m, files)
  duplicate : ∀ a, (∃ r ∈ m.records, Record.id r = Record.id a) →
    (Collection.memory m).perform files (.insert a)
      = (.error (.duplicate (Record.id a)), .memory m, files)
  insert : ∀ a, (∀ r ∈ m.records, Record.id r ≠ Record.id a) →
    ∃ m', (Collection.memory m).perform files (.insert a) = (.ok (.inserted a), .memory m', files)
      ∧ m'.records = m.records ++ [a]

lemma perform_get (hm : m.IsSound) (files : Tree) (id : Text) :
    (Collection.memory m).perform files (.get id)
      = (.ok (.found (m.records.find? fun a => Record.id a = id)), .memory m, files) := by
  rw [← hm.get?_eq]
  rfl

/-- The index of a sound collection serves as its list would. -/
lemma IsSound.isExact (hm : m.IsSound) (files : Tree) : m.IsExact files where
  nodup := hm.nodup
  list := rfl
  filter _ := rfl
  get := perform_get hm files
  present a ha := by
    rw [perform_get hm, ← hm.get?_eq, hm.get?_id ha]
  absent id := by
    rw [perform_get hm]
    simp
  size := rfl
  duplicate a h := by
    have htaken : m.records.any (fun r => Record.id r = Record.id a) = true := by simpa using h
    rw [Collection.perform, Collection.insert_memory, hm.insert_eq, if_pos htaken]
    rfl
  insert a h := by
    have hnew : ¬m.records.any (fun r => Record.id r = Record.id a) = true := by simpa using h
    rw [Collection.perform, Collection.insert_memory, hm.insert_eq, if_neg hnew]
    exact ⟨_, rfl, rfl⟩

end MemoryCollection

namespace Collection

/-- What is left of a collection and of the files after operations, accepted or refused. -/
def performAll (c : Collection α) (files : Tree) (ops : List (Operation α)) : Collection α × Tree :=
  ops.foldl (fun state op => (state.1.perform state.2 op).2) (c, files)

/-- An operation leaves a sound collection that begins with the list before. -/
theorem perform_memory (hm : m.IsSound) (files : Tree) (op : Operation α) :
    ∃ m', ((Collection.memory m).perform files op).2 = (.memory m', files)
      ∧ m'.IsSound ∧ m.records <+: m'.records := by
  have hsame : m.IsSound ∧ m.records <+: m.records := ⟨hm, List.prefix_rfl⟩
  cases op with
  | list condition => cases condition <;> exact ⟨m, rfl, hsame⟩
  | get id => exact ⟨m, rfl, hsame⟩
  | size => exact ⟨m, rfl, hsame⟩
  | insert a =>
    rw [perform, insert_memory]
    cases hinsert : m.insert a with
    | error fault => exact ⟨m, rfl, hsame⟩
    | ok m' =>
      obtain ⟨-, hrecords, hsound⟩ := hm.insert hinsert
      exact ⟨m', rfl, hsound, hrecords ▸ List.prefix_append _ _⟩

/-- So do operations one after another. -/
lemma performAll_memory (hm : m.IsSound) (files : Tree) (ops : List (Operation α)) :
    ∃ m', (Collection.memory m).performAll files ops = (.memory m', files)
      ∧ m'.IsSound ∧ m.records <+: m'.records := by
  induction ops generalizing m with
  | nil => exact ⟨m, rfl, hm, List.prefix_rfl⟩
  | cons op ops ih =>
    obtain ⟨m₁, hstep, hsound₁, hbegin₁⟩ := perform_memory hm files op
    obtain ⟨m', hrest, hsound, hbegin⟩ := ih hsound₁
    refine ⟨m', ?_, hsound, hbegin₁.trans hbegin⟩
    rw [performAll, List.foldl_cons, hstep]
    exact hrest

lemma performAll_append (c : Collection α) (files : Tree) (ops more : List (Operation α)) :
    c.performAll files (ops ++ more)
      = (c.performAll files ops).1.performAll (c.performAll files ops).2 more :=
  List.foldl_append

/-- A collection in memory is made of records with distinct ids and of no others; the first record
whose id has come before is refused.  From then on, at every point of every sequence of operations,
it answers exactly as its list would, and the list at an earlier point is the beginning of the list
at a later one.  The files are never touched. -/
theorem memory_append_only (initial : List α) (files : Tree) :
    ((∃ m, MemoryCollection.ofList initial = .ok m) ↔ (initial.map Record.id).Nodup)
      ∧ (∀ before a after, initial = before ++ a :: after → (before.map Record.id).Nodup →
        Record.id a ∈ before.map Record.id →
          MemoryCollection.ofList initial = .error (.duplicate (Record.id a)))
      ∧ ∀ m, MemoryCollection.ofList initial = .ok m → m.records = initial
        ∧ ∀ earlier later, ∃ m₁ m₂,
          (Collection.memory m).performAll files earlier = (.memory m₁, files)
            ∧ (Collection.memory m).performAll files (earlier ++ later) = (.memory m₂, files)
            ∧ m₁.IsExact files ∧ m₁.records <+: m₂.records := by
  obtain ⟨hexists, hbuilt⟩ := MemoryCollection.isSound_empty.insertAll initial
  refine ⟨hexists, ?_, fun m hm => ?_⟩
  · rintro before a after rfl hbefore ha
    exact MemoryCollection.ofList_of_taken hbefore ha
  · obtain ⟨hsound, hrecords⟩ := hbuilt m hm
    refine ⟨hrecords, fun earlier later => ?_⟩
    obtain ⟨m₁, hearlier, hsound₁, -⟩ := performAll_memory hsound files earlier
    obtain ⟨m₂, hlater, -, hbegin⟩ := performAll_memory hsound₁ files later
    refine ⟨m₁, m₂, hearlier, ?_, hsound₁.isExact files, hbegin⟩
    rw [performAll_append, hearlier, hlater]

end Collection

end Shortlist
