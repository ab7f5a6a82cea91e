import Shortlist.Proofs.Files.Presence
import Shortlist.Proofs.Store.Change
import Shortlist.Proofs.Store.Growth
import Shortlist.Proofs.Store.RecordId

/-!
# Collections of records with given ids

The records that can be read in a collection have ids out of a given list, in the order of the list
(`Collection.IsIssued`).  A record that is added keeps this, if its id is put at the end of the
list; and an addition that is refused because the id is taken was one of an id on the list.

Nobody has to keep away from the file of a collection for this.  An audit trail may add its lines to
the file, and the output of a batch may replace it (`RecordFile.Meddles`).  Neither brings a record
in: the file cannot be read as records afterwards, or is empty.
-/

namespace Shortlist

/-! ## Files of records -/

namespace RecordFile

variable {α : Type} [Record α] {ids ids' : List Text} {bytes bytes' : Text.Bytes}
  {records : List α} {name : String} {line : List Char}

/-- The bytes of a report: on their first line a mapping is opened. -/
def reportBytes (cs : List Char) : Text.Bytes := Text.encodeUtf8 ('\x7b' :: '\n' :: cs)

/-- The bytes of a file in which all records that can be read have the given ids.  Its last line has
an end, so that what is added stands on a line of its own; or it begins like a report, and then no
records can be read whatever is added. -/
inductive IsIssued (α : Type) [Record α] (ids : List Text) : Text.Bytes → Prop where
  | lines {bytes : Text.Bytes} (valid : (Text.decodeUtf8 bytes).fault = none)
    (ended : ∀ c ∈ Text.unterminated bytes, Text.isBlank c = true)
    (sublist : ∀ name (records : List α), (⟨name, some bytes⟩ : RecordFile α).toList = .ok records →
      (records.map Record.id).Sublist ids) : IsIssued α ids bytes
  | report (cs : List Char) : IsIssued α ids (reportBytes cs)

lemma toList_bytes_eq_ok :
    (⟨name, some bytes⟩ : RecordFile α).toList = .ok records
      ↔ (Text.decodeUtf8 bytes).fault = none
        ∧ readLines ⟨name, some bytes⟩ (Text.contentLines 1 (Text.readLines bytes).lines)
          = .ok records := toList_eq_ok

/-- A file that begins like a report cannot be read. -/
lemma toList_report_ne (name : String) (cs : List Char) (records : List α) :
    (⟨name, some (reportBytes cs)⟩ : RecordFile α).toList ≠ .ok records := by
  intro h
  obtain ⟨hvalid, hlines⟩ := toList_bytes_eq_ok.1 h
  have hcounted : ∃ ls, Text.contentLines 1 (Text.readLines (reportBytes cs)).lines
      = (1, ['\x7b']) :: ls := by
    rw [Text.readLines_of_fault_eq_none hvalid, reportBytes, Text.decodeUtf8_encodeUtf8]
    exact ⟨_, rfl⟩
  obtain ⟨ls, hls⟩ := hcounted
  rw [hls, readLines, List.mapM_eq_ok] at hlines
  obtain ⟨a, as, hfirst, -, -⟩ := List.forall₂_cons_left_iff.1 hlines
  exact readLine_brace_ne name 1 a hfirst

namespace IsIssued

lemma sublist_ids (h : IsIssued α ids bytes)
    (hread : (⟨name, some bytes⟩ : RecordFile α).toList = .ok records) :
    (records.map Record.id).Sublist ids := by
  cases h with
  | lines _ _ hsublist => exact hsublist name records hread
  | report cs => exact absurd hread (toList_report_ne name cs records)

lemma mono (h : IsIssued α ids bytes) (hids : ids.Sublist ids') : IsIssued α ids' bytes := by
  cases h with
  | lines valid ended hsublist =>
    exact .lines valid ended fun name records hread => (hsublist name records hread).trans hids
  | report cs => exact .report cs

/-- There are no records in a file on which all lines are blank. -/
lemma of_toList_nil (ids : List Text)
    (h : (⟨name, some bytes⟩ : RecordFile α).toList = .ok []) : IsIssued α ids bytes := by
  obtain ⟨hvalid, hlines⟩ := toList_bytes_eq_ok.1 h
  have hnone : Text.contentLines 1 (Text.readLines bytes).lines = [] :=
    List.length_eq_zero_iff.1 (List.length_eq_of_mapM hlines).symm
  refine .lines hvalid (Text.trim_eq_nil.1 ?_) fun name' records hread => ?_
  · rw [Text.contentLines_readLines hvalid, Text.contentLines_singleton] at hnone
    by_contra hopen
    rw [if_neg hopen] at hnone
    simp at hnone
  · have hlength := List.length_eq_of_mapM (toList_bytes_eq_ok.1 hread).2
    rw [hnone, List.length_nil] at hlength
    rw [List.length_eq_zero_iff.1 hlength]
    exact List.nil_sublist _

lemma nil (α : Type) [Record α] (ids : List Text) : IsIssued α ids [] := by
  have hnone : (⟨"", some []⟩ : RecordFile α).toList = .ok [] := rfl
  exact of_toList_nil ids hnone

/-- A line is added after which the ids of the records are on a longer list. -/
lemma append_line (h : IsIssued α ids bytes) (hline : line ≠ [])
    (hprinted : ∀ c ∈ line, 0x20 ≤ c.toNat) (htrim : Text.trim line = line)
    (hread : ∀ name number (a : α), readLine name number line = .ok a →
      (ids ++ [Record.id a]).Sublist ids') : IsIssued α ids' (bytes ++ Text.lineBytes line) := by
  -- below a report the line is unreadable like the report; below lines it is one more of them
  cases h with
  | report cs =>
    rw [reportBytes, Text.lineBytes, ← Text.encodeUtf8_append]
    exact .report _
  | lines valid ended hsublist =>
    obtain ⟨n, hcounted⟩ :=
      Text.exists_contentLines_append_line valid ended hline hprinted htrim
    have hended :
        ∀ c ∈ Text.unterminated (bytes ++ Text.lineBytes line), Text.isBlank c = true := by
      rw [Text.unterminated_append_line valid hline hprinted]
      simp
    refine .lines (Text.decodeUtf8_append_line valid hline hprinted).1 hended
      fun name records hrecords => ?_
    obtain ⟨-, hlines⟩ := toList_bytes_eq_ok.1 hrecords
    rw [hcounted] at hlines
    obtain ⟨before, added, hbefore, hadded, rfl⟩ := readLines_append.1 hlines
    obtain ⟨a, ha, rfl⟩ := List.mapM_singleton_eq_ok.1 hadded
    have hold : (before.map Record.id).Sublist ids :=
      hsublist name before (toList_bytes_eq_ok.2 ⟨valid, hbefore⟩)
    rw [List.map_append, List.map_singleton]
    exact (hold.append_right _).trans (hread name n a ha)

end IsIssued

end RecordFile

/-! ## What else may happen to a file -/

/-- What an audit trail and the output of a batch do to the bytes at a place: nothing, if it is not
the place of their file; otherwise the line of an audit record is added, or the file is emptied, or
a report is written. -/
inductive RecordFile.Meddles (before : Text.Bytes) : Text.Bytes → Prop where
  | none : Meddles before before
  | audit {r : AuditRecord} (legible : r.IsLegible) (printed : ∀ c ∈ r.lineChars, 0x20 ≤ c.toNat) :
    Meddles before (before ++ Text.lineBytes r.lineChars)
  | emptied : Meddles before []
  | report (cs : List Char) : Meddles before (RecordFile.reportBytes cs)

/-- Nothing of this brings a record into a file. -/
lemma RecordFile.IsIssued.of_meddles {α : Type} [Record α] [IdentifiedRecord α] {ids : List Text}
    {bytes bytes' : Text.Bytes} (h : IsIssued α ids bytes) (hmeddles : Meddles bytes bytes') :
    IsIssued α ids bytes' := by
  cases hmeddles with
  | none => exact h
  | audit legible printed =>
    refine h.append_line (AuditRecord.lineChars_ne_nil _) printed
      (AuditRecord.trim_lineChars _) fun name number a hread => ?_
    exact absurd hread (readLine_audit_ne legible name number a)
  | emptied => exact .nil α ids
  | report cs => exact .report cs

/-- Two trees whose files differ only by what audit trails and outputs have done. -/
structure Tree.IsMeddled (t t' : Tree) : Prop where
  here : t'.here = t.here
  bytesAt : ∀ place, RecordFile.Meddles (t.bytesAt place) (t'.bytesAt place)

namespace Tree.IsMeddled

variable {t t' : Tree} {p : Path}

lemma refl (t : Tree) : t.IsMeddled t := ⟨rfl, fun _ => .none⟩

/-- What is done to one file is all that is done. -/
lemma of_place {content : Text.Bytes} (h : t.write p content = .ok t')
    (hmeddles : RecordFile.Meddles (t.bytesAt (t.resolve p)) (t'.bytesAt (t.resolve p))) :
    t.IsMeddled t' where
  here := here_write h
  bytesAt place := by
    by_cases hplace : place = t.resolve p
    · rw [hplace]
      exact hmeddles
    · rw [bytesAt_write_ne h hplace]
      exact .none

/-- A file is written anew. -/
lemma of_write {content : Text.Bytes} (h : t.write p content = .ok t')
    (hcontent : ∀ before, RecordFile.Meddles before content) : t.IsMeddled t' := by
  refine of_place h ?_
  rw [bytesAt_write h]
  exact hcontent _

/-- The line of an audit record is added to a file. -/
lemma of_append {r : AuditRecord} (hlegible : r.IsLegible)
    (hprinted : ∀ c ∈ r.lineChars, 0x20 ≤ c.toNat)
    (h : t.append p (Text.lineBytes r.lineChars) = .ok t') : t.IsMeddled t' := by
  refine of_place h ?_
  rw [bytesAt_append h]
  exact .audit hlegible hprinted

lemma of_makeDirectories (h : t.makeDirectories p = .ok t') : t.IsMeddled t' where
  here := here_makeDirectories h
  bytesAt place := by
    have hfile := fileAt_makeDirectories h place
    rw [fileAt, fileAt] at hfile
    rw [Tree.bytesAt, Tree.bytesAt, hfile]
    exact .none

/-- An audit file is opened first, which leaves the bytes in it as they are, and then the line of a
record is added to it, or nothing. -/
lemma appendAuditLine {r : AuditRecord} (hfacts : AuditTrail.factsFault? r = none) (files : Tree)
    (p : Path) : files.IsMeddled (appendAuditLine files p r.toValue).1 := by
  rw [Shortlist.appendAuditLine]
  cases hopen : files.append p [] with
  | error o => exact .refl files
  | ok opened =>
    have hbytes := bytesAt_append_nil hopen
    -- opening the file may create it, but brings no bytes
    have hopened : files.IsMeddled opened :=
      ⟨here_write hopen, fun place => (hbytes place).symm ▸ .none⟩
    dsimp only
    cases hline : auditLine? r.toValue with
    | error fault => exact hopened
    | ok line =>
      dsimp only
      obtain ⟨hlegible, rfl⟩ := AuditRecord.isLegible_of_auditLine? hfacts hline
      have hprinted := (AuditRecord.isPrinted_of_auditLine? hfacts hline).le_toNat
      cases hadd : opened.append p (Text.lineBytes r.lineChars) with
      | error o => exact hopened
      | ok added =>
        have hadded : opened.IsMeddled added := of_append hlegible hprinted hadd
        exact ⟨hadded.here.trans hopened.here, fun place => hbytes place ▸ hadded.bytesAt place⟩

/-- Recording a decision adds a line to one file at most. -/
lemma append (trail : AuditTrail) (files : Tree) (r : AuditRecord) :
    files.IsMeddled (trail.append files r).2.1 := by
  rw [AuditTrail.append]
  split
  · exact .refl files
  · rename_i hfault
    cases trail with
    | off => exact .refl files
    | recorder failure calls records =>
      rw [AuditTrail.appendRecord]
      cases failure calls <;> exact .refl files
    | file p =>
      have hfacts : AuditTrail.factsFault? r = none :=
        Option.eq_none_iff_forall_ne_some.2 fun fault => hfault fault rfl
      exact appendAuditLine hfacts files p

end Tree.IsMeddled

/-! ## Ids that are taken -/

/-- The fault of a record whose id is taken. -/
def StoreFault.IsDuplicate : StoreFault → Prop
  | .duplicate _ => True
  | _ => False

section

variable {α : Type} {fault : StoreFault} {files : Tree} {p : Path} {f : RecordFile α}

namespace RecordFile

lemma not_isDuplicate_of_load (h : load (α := α) files p = .error fault) :
    ¬fault.IsDuplicate := by
  rw [load] at h
  split at h <;> cases h
  exact id

lemma not_isDuplicate_of_save (h : f.save files p = .error fault) : ¬fault.IsDuplicate := by
  rw [save] at h
  split at h
  · cases h
  · split at h <;> cases h
    exact id

variable [Record α]

lemma not_isDuplicate_of_lineBytes? {a : α} (h : Record.lineBytes? a = .error fault) :
    ¬fault.IsDuplicate := by
  rw [Record.lineBytes?] at h
  split at h <;> cases h
  exact id

lemma not_isDuplicate_of_readLine {name : String} {number : Nat} {cs : List Char}
    (h : readLine (α := α) name number cs = .error fault) : ¬fault.IsDuplicate := by
  rw [readLine] at h
  split at h
  · cases h
    exact id
  · cases h
    exact id
  · cases h
    exact id
  · split at h <;> cases h
    · exact id
    · exact id

/-- Reading is never a reason to say that an id is taken. -/
lemma not_isDuplicate_of_toList (h : f.toList = .error fault) : ¬fault.IsDuplicate := by
  rw [toList] at h
  split at h
  · cases h
  · rcases Except.bind_eq_error.1 h with hlines | ⟨records, -, hend⟩
    · obtain ⟨l, -, hl⟩ := List.exists_of_mapM_eq_error hlines
      exact not_isDuplicate_of_readLine hl
    · split at hend <;> cases hend
      exact id

/-- A record whose id is taken has the id of a record in the file. -/
lemma exists_of_append {id : Text} {line : Text.Bytes} (h : f.append id line = .error fault)
    (hfault : fault.IsDuplicate) :
    ∃ records, f.toList = .ok records ∧ records.any (fun r => Record.id r = id) = true := by
  rcases Except.bind_eq_error.1 h with hlist | ⟨records, hlist, h⟩
  · exact absurd hfault (not_isDuplicate_of_toList hlist)
  · refine ⟨records, hlist, ?_⟩
    by_contra hnew
    rw [if_neg hnew] at h
    cases h

end RecordFile

end

/-! ## Collections -/

namespace Collection

variable {α : Type} [Record α] {c c' : Collection α} {files files' : Tree} {ids ids' : List Text}
  {a : α} {records : List α}

/-- The records of a collection have the given ids, in this order; not all ids need have a
record. -/
inductive IsIssued (files : Tree) (ids : List Text) : Collection α → Prop where
  | memory {m : MemoryCollection α} (sound : m.IsSound)
    (sublist : (m.records.map Record.id).Sublist ids) : IsIssued files ids (.memory m)
  | file {p : Path} (issued : RecordFile.IsIssued α ids (files.bytesAt (files.resolve p))) :
    IsIssued files ids (.file p)

namespace IsIssued

lemma mono (h : c.IsIssued files ids) (hids : ids.Sublist ids') : c.IsIssued files ids' := by
  cases h with
  | memory sound hsublist => exact .memory sound (hsublist.trans hids)
  | file issued => exact .file (issued.mono hids)

/-- The file of the collection is as before. -/
lemma of_bytesAt (h : c.IsIssued files ids) (hhere : files'.here = files.here)
    (hbytes : ∀ p, c.path? = some p →
      files'.bytesAt (files.resolve p) = files.bytesAt (files.resolve p)) :
    c.IsIssued files' ids := by
  cases h with
  | memory sound hsublist => exact .memory sound hsublist
  | file issued =>
    refine .file ?_
    rw [Tree.resolve_of_here hhere, hbytes _ rfl]
    exact issued

/-- Audit trails and outputs bring no records in. -/
lemma of_isMeddled [IdentifiedRecord α] (h : c.IsIssued files ids)
    (hfiles : files.IsMeddled files') :
    c.IsIssued files' ids := by
  cases h with
  | memory sound hsublist => exact .memory sound hsublist
  | file issued =>
    refine .file ?_
    rw [Tree.resolve_of_here hfiles.here]
    exact issued.of_meddles (hfiles.bytesAt _)

/-- The ids of the records that a collection lists are on the list of ids. -/
lemma sublist_ids (h : c.IsIssued files ids) (hlist : c.toList files = .ok records) :
    (records.map Record.id).Sublist ids := by
  cases h with
  | memory sound hsublist =>
    cases hlist
    exact hsublist
  | @file p issued =>
    cases hread : files.readIfThere p with
    | error o =>
      rw [toList, RecordFile.load, hread] at hlist
      cases hlist
    | ok content =>
      rw [toList_file hread] at hlist
      cases content with
      | none =>
        cases hlist
        exact List.nil_sublist _
      | some bytes =>
        have hfile := Tree.fileAt_of_read (Tree.readIfThere_eq_some.1 hread)
        rw [Tree.fileAt] at hfile
        rw [Tree.bytesAt, hfile] at issued
        exact issued.sublist_ids hlist

/-- A record that is added has its id at the end of the list. -/
lemma insert [LawfulRecord α] [IdentifiedRecord α] (h : c.IsIssued files ids)
    (hinsert : c.insert files a = .ok (c', files')) :
    c'.IsIssued files' (ids ++ [Record.id a]) := by
  -- in memory the list grows by the record, in a file by its line, which reads as the record
  cases h with
  | memory sound hsublist =>
    rw [insert_memory, Except.map_eq_ok] at hinsert
    obtain ⟨m', hadded, hpair⟩ := hinsert
    cases hpair
    obtain ⟨-, hrecords, hsound⟩ := sound.insert hadded
    refine .memory hsound ?_
    rw [hrecords, List.map_append, List.map_singleton]
    exact hsublist.append_right _
  | @file p issued =>
    obtain ⟨content, hread⟩ := exists_content_of_insert hinsert
    obtain ⟨-, -, -, hfault, hwrite, rfl⟩ := insert_file_eq_ok hread hinsert
    refine .file ?_
    rw [Tree.resolve_write hwrite, Tree.bytesAt_write hwrite]
    rw [Tree.bytesAt_eq_of_readIfThere hread hwrite] at issued
    refine issued.append_line (Record.lineChars_ne_nil a)
      (Record.isPrinted_line hfault).le_toNat (Record.trim_lineChars a) fun name number b hb => ?_
    rw [Record.id_of_readLine hfault hb]

end IsIssued

/-- An addition that is refused because the id is taken was one of an id on the list. -/
lemma IsIssued.mem_of_insert {fault : StoreFault} (h : c.IsIssued files ids)
    (hinsert : c.insert files a = .error fault) (hfault : fault.IsDuplicate) :
    Record.id a ∈ ids := by
  -- where the id is taken there is a record of the id, and it is one that can be read
  suffices htaken : ∃ records, c.toList files = .ok records
      ∧ records.any (fun r => Record.id r = Record.id a) = true by
    obtain ⟨records, hlist, hany⟩ := htaken
    obtain ⟨r, hr, hid⟩ : ∃ r ∈ records, Record.id r = Record.id a := by simpa using hany
    exact (h.sublist_ids hlist).subset (hid ▸ List.mem_map_of_mem hr)
  cases h with
  | @memory m sound hsublist =>
    refine ⟨m.records, rfl, ?_⟩
    rw [insert_memory, Except.map_eq_error, sound.insert_eq] at hinsert
    by_contra hnew
    rw [if_neg hnew] at hinsert
    cases hinsert
  | @file p issued =>
    rcases Except.bind_eq_error.1 hinsert with hline | ⟨line, -, hinsert⟩
    · exact absurd hfault (RecordFile.not_isDuplicate_of_lineBytes? hline)
    rcases Except.bind_eq_error.1 hinsert with hload | ⟨f, hload, hinsert⟩
    · exact absurd hfault (RecordFile.not_isDuplicate_of_load hload)
    rcases Except.bind_eq_error.1 hinsert with happend | ⟨g, -, hinsert⟩
    · obtain ⟨records, hrecords, hany⟩ := RecordFile.exists_of_append happend hfault
      exact ⟨records, Except.bind_eq_ok.2 ⟨f, hload, hrecords⟩, hany⟩
    rcases Except.bind_eq_error.1 hinsert with hsave | ⟨saved, -, hinsert⟩
    · exact absurd hfault (RecordFile.not_isDuplicate_of_save hsave)
    · cases hinsert

lemma not_isDuplicate_of_toList {fault : StoreFault} (h : c.toList files = .error fault) :
    ¬fault.IsDuplicate := by
  cases c with
  | memory m => cases h
  | file p =>
    rcases Except.bind_eq_error.1 h with hload | ⟨f, -, hlist⟩
    · exact RecordFile.not_isDuplicate_of_load hload
    · exact RecordFile.not_isDuplicate_of_toList hlist

lemma not_isDuplicate_of_get? {fault : StoreFault} {id : Text}
    (h : c.get? files id = .error fault) : ¬fault.IsDuplicate := by
  cases c with
  | memory m => cases h
  | file p =>
    rcases Except.bind_eq_error.1 h with hload | ⟨f, -, hget⟩
    · exact RecordFile.not_isDuplicate_of_load hload
    · exact RecordFile.not_isDuplicate_of_toList (Except.map_eq_error.1 hget)

lemma not_isDuplicate_of_filter {fault : StoreFault} {condition : α → Bool}
    (h : c.filter files condition = .error fault) : ¬fault.IsDuplicate := by
  cases c with
  | memory m => cases h
  | file p =>
    rcases Except.bind_eq_error.1 h with hload | ⟨f, -, hfilter⟩
    · exact RecordFile.not_isDuplicate_of_load hload
    · exact RecordFile.not_isDuplicate_of_toList (Except.map_eq_error.1 hfilter)

end Collection

end Shortlist
