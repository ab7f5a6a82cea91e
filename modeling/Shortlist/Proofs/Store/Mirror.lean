import Shortlist.Proofs.Files.Directories
import Shortlist.Proofs.Store.Collection
import Shortlist.Proofs.Store.Memory

/-!
# Files that mirror a collection in memory

A file mirrors a collection in memory if it holds the settled forms of its records and ends with the
end of a line.  The operations of both then come to the same thing, up to the settling of records,
which cannot be seen in what is shown of them; and after an insertion of a record that has a line
the file mirrors the collection again (`Mirrors.insert`).  A record that has no line is taken by the
collection in memory, but never by the file (`insert_file_of_lineFault`).
-/

namespace Shortlist

open LawfulRecord (settled)

variable {α : Type} [Record α] [LawfulRecord α] {m : MemoryCollection α} {files files' : Tree}
  {p q : Path} {a : α}

/-- A file that mirrors a collection in memory. -/
structure Mirrors (m : MemoryCollection α) (files : Tree) (p : Path) : Prop where
  sound : m.IsSound
  lined : ∀ a ∈ m.records, Record.lineFault? a = none
  content : ∃ content, files.readIfThere p = .ok content
    ∧ (Collection.fileOf p content).toList = .ok (m.records.map settled)
    ∧ Text.unterminated (content.getD []) = []
  room : files.HasRoom p

namespace Mirrors

/-- Where there is no file yet, an empty collection is mirrored. -/
lemma empty (hread : files.readIfThere p = .ok none) (hroom : files.HasRoom p) :
    Mirrors (.empty : MemoryCollection α) files p :=
  ⟨MemoryCollection.isSound_empty, by simp [MemoryCollection.empty], ⟨none, hread, rfl, rfl⟩, hroom⟩

/-- The file holds the settled records. -/
lemma toList_eq (h : Mirrors m files p) :
    (Collection.file p).toList files = .ok (m.records.map settled) := by
  obtain ⟨content, hread, hlist, -⟩ := h.content
  rw [Collection.toList_file hread, hlist]

/-- Settled records are shown like the records themselves. -/
theorem dump?_settled (h : Mirrors m files p) {records : List α} (hsub : records ⊆ m.records) :
    (records.map settled).map Record.dump? = records.map Record.dump? := by
  rw [List.map_map]
  exact List.map_congr_left fun a ha => Record.dump?_settled (h.lined a (hsub ha))

/-- The file finds what the collection finds, settled. -/
lemma get?_eq (h : Mirrors m files p) (id : Text) :
    (Collection.file p).get? files id = .ok ((m.get? id).map settled) := by
  obtain ⟨content, hread, hlist, -⟩ := h.content
  rw [Collection.get?, Collection.load_eq hread]
  simp only [bind, Except.bind, RecordFile.get?, hlist, Except.map, h.sound.get?_eq,
    List.find?_map]
  congr 3
  funext a
  simp [LawfulRecord.id_settled]

/-- The file chooses the records that the collection chooses, settled, if a condition does not look
at what settling changes. -/
lemma filter_eq (h : Mirrors m files p) {condition : α → Bool}
    (hcondition : ∀ a, condition (settled a) = condition a) :
    (Collection.file p).filter files condition = .ok ((m.filter condition).map settled) := by
  obtain ⟨content, hread, hlist, -⟩ := h.content
  rw [Collection.filter, Collection.load_eq hread]
  simp only [bind, Except.bind, RecordFile.filter, hlist, Except.map, List.filter_map,
    MemoryCollection.filter]
  congr 3
  funext a
  exact hcondition a

/-- The file refuses a record whose id is there already. -/
lemma insert_of_taken (h : Mirrors m files p) (hline : Record.lineFault? a = none)
    (htaken : ∃ r ∈ m.records, Record.id r = Record.id a) :
    (Collection.file p).insert files a = .error (.duplicate (Record.id a)) := by
  obtain ⟨content, hread, hlist, -⟩ := h.content
  have hbytes : Record.lineBytes? a = .ok (Text.lineBytes (Record.lineChars a)) :=
    Record.lineBytes?_eq_ok.2 ⟨hline, rfl⟩
  have hsettled : (m.records.map settled).any (fun r => Record.id r = Record.id a) = true := by
    simpa [List.any_map, Function.comp_def, LawfulRecord.id_settled] using htaken
  rw [Collection.insert_file hread, hbytes]
  simp only [Except.bind, RecordFile.append, hlist, bind, hsettled, if_true]
  rfl

/-- The file takes a record whose id is new, and its line is written at the end. -/
lemma insert_of_new (hline : Record.lineFault? a = none)
    (hnew : ∀ r ∈ m.records, Record.id r ≠ Record.id a) {content : Option Text.Bytes}
    (hread : files.readIfThere p = .ok content)
    (hlist : (Collection.fileOf p content).toList = .ok (m.records.map settled))
    (hwrite : files.write p (content.getD [] ++ Text.lineBytes (Record.lineChars a)) = .ok files') :
    (Collection.file p).insert files a = .ok (.file p, files') := by
  refine Collection.insert_file_of_new hread hlist ?_ hline hwrite
  rw [List.forall_mem_map]
  intro r hr
  rw [LawfulRecord.id_settled]
  exact hnew r hr

/-- The file with one more line mirrors the collection with one more record. -/
lemma of_write (h : Mirrors m files p) {m' : MemoryCollection α}
    (hline : Record.lineFault? a = none)
    (hdecoded : (Record.toValue a).IsDecoded) {content : Option Text.Bytes}
    (hlist : (Collection.fileOf p content).toList = .ok (m.records.map settled))
    (hend : Text.unterminated (content.getD []) = [])
    (hwrite : files.write p (content.getD [] ++ Text.lineBytes (Record.lineChars a)) = .ok files')
    (hsound : m'.IsSound) (hrecords : m'.records = m.records ++ [a]) : Mirrors m' files' p := by
  refine ⟨hsound, ?_, ⟨some (content.getD [] ++ Text.lineBytes (Record.lineChars a)),
    Tree.readIfThere_write hwrite, ?_, ?_⟩, h.room.of_write hwrite⟩
  · intro r hr
    rw [hrecords] at hr
    rcases List.mem_append.1 hr with hr | hr
    · exact h.lined r hr
    · rw [List.mem_singleton.1 hr]
      exact hline
  · have hblank : ∀ c ∈ Text.unterminated (Collection.fileOf (α := α) p content).bytes,
        Text.isBlank c = true := by
      intro c hc
      rw [Collection.fileOf, RecordFile.bytes, hend] at hc
      cases hc
    -- the last line had an end, so the new line stands on its own
    rw [hrecords, List.map_append]
    exact RecordFile.toList_addLine hlist hline hdecoded hblank
  · have hvalid := (RecordFile.toList_eq_ok.1 hlist).1
    exact Text.unterminated_append_line hvalid (Record.lineChars_ne_nil a)
      (Record.isPrinted_line hline).le_toNat

/-- The file takes a record that has a line exactly if the collection takes it, with the same fault
otherwise, and mirrors the collection afterwards. -/
theorem insert (h : Mirrors m files p) (hline : Record.lineFault? a = none)
    (hdecoded : (Record.toValue a).IsDecoded) :
    (∃ fault, m.insert a = .error fault ∧ (Collection.file p).insert files a = .error fault)
      ∨ ∃ m' files' content, m.insert a = .ok m'
        ∧ (Collection.file p).insert files a = .ok (.file p, files')
        ∧ files.write p content = .ok files' ∧ Mirrors m' files' p := by
  by_cases htaken : m.records.any (fun r => Record.id r = Record.id a) = true
  · refine .inl ⟨.duplicate (Record.id a), ?_, h.insert_of_taken hline (by simpa using htaken)⟩
    rw [h.sound.insert_eq, if_pos htaken]
  · have hinsert : m.insert a = .ok ⟨m.records ++ [a], m.index.insert (Record.id a) a⟩ := by
      rw [h.sound.insert_eq, if_neg htaken]
    obtain ⟨-, hrecords, hsound⟩ := h.sound.insert hinsert
    obtain ⟨content, hread, hlist, hend⟩ := h.content
    have hwrite := h.room.write (content.getD [] ++ Text.lineBytes (Record.lineChars a))
    exact .inr ⟨_, _, _, hinsert, insert_of_new hline (by simpa using htaken) hread hlist hwrite,
      hwrite,
      h.of_write hline hdecoded hlist hend hwrite hsound hrecords⟩

/-- A file elsewhere that is written does not matter. -/
lemma write_ne (h : Mirrors m files p) {content : Text.Bytes}
    (hwrite : files.write q content = .ok files') (hne : files.resolve p ≠ files.resolve q) :
    Mirrors m files' p := by
  obtain ⟨content', hread, hlist⟩ := h.content
  exact ⟨h.sound, h.lined,
    ⟨content', (Tree.readIfThere_write_ne hwrite hne).trans hread, hlist⟩, h.room.of_write hwrite⟩

/-- What happens along a path that leads elsewhere does not matter. -/
lemma of_sameOff (h : Mirrors m files p) (hsame : Tree.SameOff q files files')
    (hoff : ¬files.IsOn q (files.resolve p)) : Mirrors m files' p := by
  obtain ⟨content, hread, hlist⟩ := h.content
  exact ⟨h.sound, h.lined,
    ⟨content, (hsame.readIfThere h.room.placeOf hoff).trans hread, hlist⟩,
    hsame.hasRoom h.room hoff⟩

end Mirrors

omit [LawfulRecord α] in
/-- A record that has no line is refused before the file is looked at. -/
theorem insert_file_of_lineFault {fault : Value.PlainFault}
    (h : Record.lineFault? a = some fault) :
    (Collection.file p).insert files a = .error (.noLine fault) := by
  rw [Collection.insert, Record.lineBytes?, h]
  rfl

omit [LawfulRecord α] in
/-- A collection in memory refuses nothing because it has no line. -/
lemma insert_memory_ne_noLine (m : MemoryCollection α) (a : α) (fault : Value.PlainFault) :
    m.insert a ≠ .error (.noLine fault) := by
  rw [MemoryCollection.insert]
  split <;> simp

end Shortlist
