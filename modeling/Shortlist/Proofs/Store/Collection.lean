import Shortlist.Proofs.Files.Tree
import Shortlist.Proofs.Store.RecordFile
import Shortlist.Store.Basic

/-!
# Collections in files

What the operations of a collection in a file come to, by the content of the file.  An insertion
that is accepted adds a line at the end of the file (`insert_file_eq_ok`); the collection holds the
new record after the old ones exactly if the last line had an end, or was blank
(`toList_insert_iff`).

The line is added at the end of the bytes whatever these are.  A last line without an end and the
new one then become one line, which is no record, and from then on no operation on the collection
succeeds, though the insertion did.
-/

namespace Shortlist.Collection

/-! ## Operations by content -/

section

variable {α : Type} {p : Path} {files : Tree} {content : Option Text.Bytes}

/-- The collection in a file of some content. -/
def fileOf (p : Path) (content : Option Text.Bytes) : RecordFile α := ⟨p.lastName, content⟩

lemma load_eq (h : files.readIfThere p = .ok content) :
    RecordFile.load (α := α) files p = .ok (fileOf p content) := by
  rw [RecordFile.load, h]
  rfl

lemma save_addLine (f : RecordFile α) (line : Text.Bytes) :
    (f.addLine line).save files p = (files.write p (f.bytes ++ line)).mapError .obstructed := by
  rw [RecordFile.save, RecordFile.addLine]
  cases h : files.write p (f.bytes ++ line) <;> simp [h, Except.mapError]

end

variable {α : Type} [Record α] {p : Path} {files files' : Tree} {records : List α} {a : α}
  {c : Collection α} {content : Option Text.Bytes}

lemma toList_file (h : files.readIfThere p = .ok content) :
    (Collection.file p).toList files = (fileOf (α := α) p content).toList := by
  rw [toList, load_eq h]
  rfl

lemma insert_memory (m : MemoryCollection α) (files : Tree) (a : α) :
    (Collection.memory m).insert files a = (m.insert a).map fun m' => (.memory m', files) := by
  rw [insert]
  cases m.insert a <;> rfl

lemma insert_file (h : files.readIfThere p = .ok content) (a : α) :
    (Collection.file p).insert files a
      = (Record.lineBytes? a).bind fun line =>
        ((fileOf (α := α) p content).append (Record.id a) line).bind fun f =>
          (f.save files p).bind fun files => .ok (.file p, files) := by
  rw [insert]
  cases Record.lineBytes? a with
  | error fault => rfl
  | ok line =>
    rw [load_eq h]
    rfl

/-- An insertion that is accepted adds the line of the record at the end of the file. -/
theorem insert_file_eq_ok (hread : files.readIfThere p = .ok content)
    (h : (Collection.file p).insert files a = .ok (c, files')) :
    ∃ records, (fileOf (α := α) p content).toList = .ok records
      ∧ (∀ r ∈ records, Record.id r ≠ Record.id a)
      ∧ Record.lineFault? a = none
      ∧ files.write p (content.getD [] ++ Text.lineBytes (Record.lineChars a)) = .ok files'
      ∧ c = .file p := by
  rw [insert_file hread] at h
  obtain ⟨line, hline, h⟩ := Except.bind_eq_ok.1 h
  obtain ⟨hfault, rfl⟩ := Record.lineBytes?_eq_ok.1 hline
  obtain ⟨f, happend, h⟩ := Except.bind_eq_ok.1 h
  obtain ⟨records, hrecords, hnew, rfl⟩ := RecordFile.append_eq_ok.1 happend
  obtain ⟨saved, hsave, h⟩ := Except.bind_eq_ok.1 h
  cases h
  rw [save_addLine] at hsave
  exact ⟨records, hrecords, hnew, hfault, Except.mapError_eq_ok.1 hsave, rfl⟩

/-- A record with a line and a new id is accepted. -/
lemma insert_file_of_new (hread : files.readIfThere p = .ok content)
    (hlist : (fileOf (α := α) p content).toList = .ok records)
    (hnew : ∀ r ∈ records, Record.id r ≠ Record.id a) (hfault : Record.lineFault? a = none)
    (hwrite : files.write p (content.getD [] ++ Text.lineBytes (Record.lineChars a)) = .ok files') :
    (Collection.file p).insert files a = .ok (.file p, files') := by
  have hbytes : Record.lineBytes? a = .ok (Text.lineBytes (Record.lineChars a)) :=
    Record.lineBytes?_eq_ok.2 ⟨hfault, rfl⟩
  have happend : (fileOf (α := α) p content).append (Record.id a)
      (Text.lineBytes (Record.lineChars a))
      = .ok ((fileOf p content).addLine (Text.lineBytes (Record.lineChars a))) :=
    RecordFile.append_eq_ok.2 ⟨_, hlist, hnew, rfl⟩
  have hsave : ((fileOf (α := α) p content).addLine
      (Text.lineBytes (Record.lineChars a))).save files p = .ok files' := by
    rw [save_addLine]
    exact Except.mapError_eq_ok.2 hwrite
  rw [insert_file hread, hbytes]
  simp only [Except.bind, happend, hsave]

/-! ## What an insertion leaves behind -/

variable [LawfulRecord α]

/-- A collection holds the new record after the old ones exactly if there was nothing but blanks
after the last end of a line. -/
theorem toList_insert_iff (hread : files.readIfThere p = .ok content)
    (hlist : (Collection.file p).toList files = .ok records)
    (hdecoded : (Record.toValue a).IsDecoded)
    (hinsert : (Collection.file p).insert files a = .ok (c, files')) :
    (∃ records', c.toList files' = .ok records'
        ∧ records'.map Record.dump? = (records ++ [a]).map Record.dump?)
      ↔ ∀ ch ∈ Text.unterminated (content.getD []), Text.isBlank ch = true := by
  obtain ⟨rs, hrs, -, hfault, hwrite, rfl⟩ := insert_file_eq_ok hread hinsert
  rw [toList_file hread, hrs] at hlist
  cases hlist
  rw [toList_file (Tree.readIfThere_write hwrite)]
  constructor
  · rintro ⟨records', hrecords', hdump⟩
    by_contra hopen
    have hlength := RecordFile.length_of_toList_addLine hrs hfault hopen hrecords'
    have hlength' := congrArg List.length hdump
    simp [hlength] at hlength'
  · intro hblank
    refine ⟨_, RecordFile.toList_addLine hrs hfault hdecoded hblank, ?_⟩
    rw [List.map_append, List.map_append, List.map_singleton, List.map_singleton,
      Record.dump?_settled hfault]

/-- The path of a file of postings. -/
def postings : Path := ⟨"/", ["vacancies.jsonl"]⟩

/-- Files with nothing but a file of postings. -/
def holding (content : Text.Bytes) : Tree := ⟨[], [(["vacancies.jsonl"], .file content)]⟩

lemma hasRoom_holding (content : Text.Bytes) : (holding content).HasRoom postings :=
  ⟨rfl, rfl, nofun⟩

lemma readIfThere_holding (content : Text.Bytes) :
    (holding content).readIfThere postings = .ok (some content) := rfl

/-- A posting that is there before the one of the analyst. -/
def earlierPosting : Vacancy := analystDraft.register "u" "2026-10-01T00:00:00Z"

lemma lineFault?_earlierPosting : Record.lineFault? earlierPosting = none := rfl

lemma le_toNat_earlierPosting : ∀ c ∈ Record.lineChars earlierPosting, 0x20 ≤ c.toNat :=
  (Record.isPrinted_line lineFault?_earlierPosting).le_toNat

/-- The line of the earlier posting, with blanks behind its end. -/
def padded : Text.Bytes :=
  Text.lineBytes (Record.lineChars earlierPosting) ++ Text.encodeUtf8 [' ', '\t']

/-- The line of the earlier posting, without an end. -/
def unended : Text.Bytes := Text.encodeUtf8 (Record.lineChars earlierPosting)

lemma unterminated_ended :
    Text.unterminated ([] ++ Text.lineBytes (Record.lineChars earlierPosting)) = [] :=
  Text.unterminated_append_line rfl (Record.lineChars_ne_nil earlierPosting) le_toNat_earlierPosting

/-- The space and the tab of the tail are blanks. -/
lemma isBlank_padding : ∀ c ∈ [' ', '\t'], Text.isBlank c = true := by
  rw [List.forall_mem_cons, List.forall_mem_singleton]
  exact ⟨rfl, rfl⟩

/-- Nothing but blanks stands behind the end. -/
lemma isBlank_unterminated_padded :
    ∀ c ∈ Text.unterminated padded, Text.isBlank c = true := by
  have hvalid : (Text.decodeUtf8 (Text.lineBytes (Record.lineChars earlierPosting))).fault
      = none := by
    rw [Text.lineBytes, Text.decodeUtf8_encodeUtf8]
  have hended := unterminated_ended
  rw [List.nil_append] at hended
  obtain ⟨-, -, hopen⟩ := Text.unterminated_append hvalid
    (by decide : '\n' ∉ [' ', '\t']) (by decide)
  rw [padded, hopen, hended, List.nil_append]
  exact isBlank_padding

/-- The line itself stands there where there is no end. -/
lemma unterminated_unended : Text.unterminated unended = Record.lineChars earlierPosting := by
  have hprinted := le_toNat_earlierPosting
  obtain ⟨-, -, hopen⟩ := Text.unterminated_append (rfl : (Text.decodeUtf8 []).fault = none)
    (fun hmem => absurd (hprinted _ hmem) (by decide) : '\n' ∉ Record.lineChars earlierPosting)
    (fun hmem => absurd (hprinted _ hmem) (by decide))
  exact hopen

/-- There is no file at first. -/
lemma toList_none : (fileOf (α := Vacancy) postings none).toList = .ok [] := rfl

lemma isBlank_unterminated_none :
    ∀ c ∈ Text.unterminated (fileOf (α := Vacancy) postings none).bytes, Text.isBlank c = true :=
  List.forall_mem_nil _

lemma toList_padded :
    (Collection.file postings : Collection Vacancy).toList (holding padded)
      = .ok [earlierPosting] := by
  have hline := RecordFile.toList_addLine toList_none lineFault?_earlierPosting
    earlierPosting.isDecoded_toValue isBlank_unterminated_none
  have hended : ∀ c ∈ Text.unterminated ((fileOf (α := Vacancy) postings none).addLine
      (Text.lineBytes (Record.lineChars earlierPosting))).bytes, Text.isBlank c = true := by
    simp only [RecordFile.bytes, RecordFile.addLine, fileOf, Option.getD_some, Option.getD_none,
      unterminated_ended]
    exact List.forall_mem_nil _
  have hfile : fileOf (α := Vacancy) postings (some padded)
      = ((fileOf postings none).addLine (Text.lineBytes (Record.lineChars earlierPosting))).addLine
        (Text.encodeUtf8 [' ', '\t']) := by
    simp [RecordFile.addLine, RecordFile.bytes, fileOf, padded]
  rw [toList_file (readIfThere_holding _), hfile]
  exact RecordFile.toList_append_blanks hline hended isBlank_padding (by decide) (by decide)

lemma toList_unended :
    (Collection.file postings : Collection Vacancy).toList (holding unended)
      = .ok [earlierPosting] := by
  have hfile : fileOf (α := Vacancy) postings (some unended)
      = (fileOf postings none).addLine (Text.encodeUtf8 (Record.lineChars earlierPosting)) := by
    simp [RecordFile.addLine, RecordFile.bytes, fileOf, unended]
  rw [toList_file (readIfThere_holding _), hfile]
  exact RecordFile.toList_append_open toList_none lineFault?_earlierPosting
    earlierPosting.isDecoded_toValue isBlank_unterminated_none

theorem toList_insert_analyst :
    (∃ (c : Collection Vacancy) (files : Tree),
      (Collection.file postings).insert (holding padded) analystPosting = .ok (c, files)
        ∧ ∃ records, c.toList files = .ok records
          ∧ records.map Record.dump? = [earlierPosting, analystPosting].map Record.dump?)
    ∧ ∃ (c : Collection Vacancy) (files : Tree),
      (Collection.file postings).insert (holding unended) analystPosting = .ok (c, files)
        ∧ ¬∃ records, c.toList files = .ok records
          ∧ records.map Record.dump? = [earlierPosting, analystPosting].map Record.dump? := by
  have hnew : ∀ r ∈ [earlierPosting], Record.id r ≠ Record.id analystPosting := by decide
  have hinsert (content : Text.Bytes) (hlist : (Collection.file postings).toList (holding content)
      = .ok [earlierPosting]) : ∃ files, (Collection.file postings).insert (holding content)
        analystPosting = .ok (.file postings, files) := by
    rw [toList_file (readIfThere_holding _)] at hlist
    exact ⟨_, insert_file_of_new (readIfThere_holding _) hlist hnew rfl
      ((hasRoom_holding content).write _)⟩
  obtain ⟨files, hpadded⟩ := hinsert padded toList_padded
  obtain ⟨files', hunended⟩ := hinsert unended toList_unended
  refine ⟨⟨_, files, hpadded, ?_⟩, _, files', hunended, fun hboth => ?_⟩
  · exact (toList_insert_iff (readIfThere_holding _) toList_padded analystPosting.isDecoded_toValue
      hpadded).2 isBlank_unterminated_padded
  · have hblank := (toList_insert_iff (readIfThere_holding _) toList_unended
      analystPosting.isDecoded_toValue hunended).1 hboth
    -- the line of the earlier posting stands where there should be nothing but blanks
    rw [Option.getD_some, unterminated_unended] at hblank
    have hbrace : Text.isBlank '\x7b' = true := hblank _ (List.mem_of_mem_head? rfl)
    cases hbrace

end Shortlist.Collection
