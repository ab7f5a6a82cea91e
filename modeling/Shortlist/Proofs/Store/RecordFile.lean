import Shortlist.Proofs.Outcome
import Shortlist.Proofs.Store.Record

/-!
# Appending to a file of records

The records of a file are those of the lines that count, so what an appended line adds depends on
what stands in front of it.  Where nothing but blanks stands after the last end of a line, the file
holds the old records and the new one (`toList_addLine`).  Where something else stands there, the
two are one line, and the file holds as many records as before or cannot be read
(`length_of_toList_addLine`).
-/

namespace Shortlist.RecordFile

section

variable {α : Type}

/-- The bytes of a file; there are none if there is no file. -/
def bytes (f : RecordFile α) : Text.Bytes := f.content.getD []

/-- The file with a line at its end. -/
def addLine (f : RecordFile α) (line : Text.Bytes) : RecordFile α :=
  { f with content := some (f.bytes ++ line) }

end

variable {α : Type} [Record α] {f : RecordFile α} {records : List α} {a : α}

/-- The records of lines with their numbers. -/
def readLines (f : RecordFile α) (ls : List (Nat × List Char)) : Except StoreFault (List α) :=
  ls.mapM fun l => readLine f.name l.1 l.2

lemma toList_some (name : String) (content : Text.Bytes) :
    (⟨name, some content⟩ : RecordFile α).toList
      = ((⟨name, some content⟩ : RecordFile α).readLines
          (Text.contentLines 1 (Text.readLines content).lines)).bind fun records =>
        match (Text.readLines content).fault with
        | some fault => .error (.file (.undecodable fault))
        | none => .ok records := rfl

lemma toList_eq_ok :
    f.toList = .ok records
      ↔ (Text.decodeUtf8 f.bytes).fault = none
        ∧ f.readLines (Text.contentLines 1 (Text.readLines f.bytes).lines) = .ok records := by
  obtain ⟨name, content⟩ := f
  cases content with
  | none => exact ⟨fun h => ⟨rfl, h⟩, fun h => h.2⟩
  | some content =>
    rw [toList_some, Except.bind_eq_ok, ← Text.readLines_fault_eq_none]
    simp only [bytes, Option.getD_some]
    cases (Text.readLines content).fault <;> simp

lemma readLines_append {ls ls' : List (Nat × List Char)} :
    f.readLines (ls ++ ls') = .ok records
      ↔ ∃ rs rs', f.readLines ls = .ok rs ∧ f.readLines ls' = .ok rs' ∧ records = rs ++ rs' :=
  List.mapM_append_eq_ok

lemma append_eq_ok {g : RecordFile α} {id : Text} {line : Text.Bytes} :
    f.append id line = .ok g
      ↔ ∃ rs, f.toList = .ok rs ∧ (∀ r ∈ rs, Record.id r ≠ id) ∧ g = f.addLine line := by
  have happend : f.append id line = f.toList.bind fun rs =>
      if rs.any fun r => Record.id r = id then .error (.duplicate id)
      else .ok (f.addLine line) := by
    rw [append]
    congr 1
  rw [happend, Except.bind_eq_ok]
  refine exists_congr fun rs => and_congr_right fun _ => ?_
  split
  · rename_i hany
    simp only [List.any_eq_true, decide_eq_true_eq] at hany
    obtain ⟨r, hr, hid⟩ := hany
    simpa using fun h => absurd hid (h r hr)
  · rename_i hany
    simp only [List.any_eq_true, decide_eq_true_eq, not_exists, not_and] at hany
    exact ⟨fun h => ⟨hany, (Except.ok.inj h).symm⟩, fun h => congrArg _ h.2.symm⟩

/-- Blanks that are put where nothing but blanks stands change no record. -/
lemma toList_append_blanks {cs : List Char} (h : f.toList = .ok records)
    (hblank : ∀ c ∈ Text.unterminated f.bytes, Text.isBlank c = true)
    (hcs : ∀ c ∈ cs, Text.isBlank c = true) (hfeed : '\n' ∉ cs) (hreturn : '\r' ∉ cs) :
    (f.addLine (Text.encodeUtf8 cs)).toList = .ok records := by
  obtain ⟨hvalid, hrecords⟩ := toList_eq_ok.1 h
  have hlines := Text.contentLines_append_blanks hvalid hblank hcs hfeed hreturn
  obtain ⟨hvalid', -⟩ := Text.unterminated_append hvalid hfeed hreturn
  exact toList_eq_ok.2 ⟨hvalid', (congrArg _ hlines).trans hrecords⟩

variable [LawfulRecord α]

/-- Where nothing but blanks stands after the last end of a line, the new record comes after the old
ones. -/
theorem toList_addLine (h : f.toList = .ok records) (hfault : Record.lineFault? a = none)
    (hdecoded : (Record.toValue a).IsDecoded)
    (hblank : ∀ c ∈ Text.unterminated f.bytes, Text.isBlank c = true) :
    (f.addLine (Text.lineBytes (Record.lineChars a))).toList
      = .ok (records ++ [LawfulRecord.settled a]) := by
  obtain ⟨hvalid, hrecords⟩ := toList_eq_ok.1 h
  have hprinted := (Record.isPrinted_line hfault).le_toNat
  obtain ⟨hvalid', -⟩ := Text.decodeUtf8_append_line hvalid (Record.lineChars_ne_nil a) hprinted
  obtain ⟨n, hlines⟩ := Text.exists_contentLines_append_line hvalid hblank
    (Record.lineChars_ne_nil a) hprinted (Record.trim_lineChars a)
  refine toList_eq_ok.2 ⟨hvalid', (congrArg _ hlines).trans (readLines_append.2 ?_)⟩
  exact ⟨records, _, hrecords,
    List.mapM_singleton_eq_ok.2 ⟨_, Record.readLine_lineChars hfault hdecoded f.name n, rfl⟩, rfl⟩

/-- A line without an end is a record, too. -/
lemma toList_append_open (h : f.toList = .ok records) (hfault : Record.lineFault? a = none)
    (hdecoded : (Record.toValue a).IsDecoded)
    (hblank : ∀ c ∈ Text.unterminated f.bytes, Text.isBlank c = true) :
    (f.addLine (Text.encodeUtf8 (Record.lineChars a))).toList
      = .ok (records ++ [LawfulRecord.settled a]) := by
  obtain ⟨hvalid, hrecords⟩ := toList_eq_ok.1 h
  have hprinted := (Record.isPrinted_line hfault).le_toNat
  obtain ⟨hvalid', n, hlines⟩ := Text.exists_contentLines_append_open hvalid hblank
    (Record.lineChars_ne_nil a) hprinted (Record.trim_lineChars a)
  refine toList_eq_ok.2 ⟨hvalid', (congrArg _ hlines).trans (readLines_append.2 ?_)⟩
  exact ⟨records, _, hrecords,
    List.mapM_singleton_eq_ok.2 ⟨_, Record.readLine_lineChars hfault hdecoded f.name n, rfl⟩, rfl⟩

/-- Where something else stands there, no record is added. -/
theorem length_of_toList_addLine {records' : List α} (h : f.toList = .ok records)
    (hfault : Record.lineFault? a = none)
    (hopen : ¬∀ c ∈ Text.unterminated f.bytes, Text.isBlank c = true)
    (h' : (f.addLine (Text.lineBytes (Record.lineChars a))).toList = .ok records') :
    records'.length = records.length := by
  obtain ⟨hvalid, hrecords⟩ := toList_eq_ok.1 h
  obtain ⟨-, hlines⟩ := Text.readLines_append_line hvalid (Record.lineChars_ne_nil a)
    (Record.isPrinted_line hfault).le_toNat
  obtain ⟨-, hrecords'⟩ := toList_eq_ok.1 h'
  have hopen' : ¬∀ c ∈ Text.unterminated f.bytes ++ Record.lineChars a, Text.isBlank c = true :=
    fun hall => hopen fun c hc => hall c (List.mem_append_left _ hc)
  rw [Text.contentLines_readLines hvalid, Text.contentLines_singleton,
    if_neg (mt Text.trim_eq_nil.1 hopen)] at hrecords
  rw [Text.contentLines_singleton, if_neg (mt Text.trim_eq_nil.1 hopen')] at hlines
  have hlength := List.length_eq_of_mapM hrecords
  have hlength' := List.length_eq_of_mapM ((congrArg _ hlines).symm.trans hrecords')
  rw [hlength, hlength']
  simp

end Shortlist.RecordFile
