import Shortlist.Batch.ApplicationsFile
import Shortlist.Proofs.Application
import Shortlist.Proofs.Json.Decoded
import Shortlist.Proofs.Text.Lines
import Shortlist.Proofs.Value.Entries

/-!
# Lines of a file of applications

A file of applications that can be read is one that decodes, and its lines are those of the text.
Each line that is not blank gives one entry or one error (`readContents_cons_ok`): an entry if the
line is an object that reads as one, which is what a `ValidLine` is, and an error otherwise.

The object of a valid line, with the id of a vacancy put in, is a document that can be handed in as
an application to that vacancy; it then reads as the same application (`ValidLine.read_request`).
-/

namespace Shortlist

/-! ## Valid lines -/

/-- An object on a line, with the entry that it reads as. -/
structure ValidLine where
  members : Entries
  entry : BatchEntry
  reads : BatchEntry.read (.mapping members) = .accepted entry

namespace ValidLine

/-- The valid line of the given content, if it is one. -/
def ofContent? (content : List Char) : Option ValidLine :=
  match Json.parse content with
  | .ok (.mapping es) =>
    match h : BatchEntry.read (.mapping es) with
    | .accepted entry => some ⟨es, entry, h⟩
    | _ => none
  | _ => none

/-- Whether a line names no vacancy but the given one. -/
def joins (l : ValidLine) (vacancyId : Text) : Bool := l.entry.vacancyId.all (· = vacancyId)

/-- The document that hands in a line as an application to a vacancy. -/
def request (l : ValidLine) (vacancyId : Text) : Value :=
  .mapping (Entries.put (.name "vacancy_id") (.text vacancyId) l.members)

lemma joins_iff {l : ValidLine} {vacancyId : Text} :
    l.joins vacancyId = true ↔ l.entry.vacancyId = none ∨ l.entry.vacancyId = some vacancyId := by
  rw [joins]
  cases l.entry.vacancyId <;> simp

/-- A line that does not join names another vacancy. -/
lemma not_joins_iff {l : ValidLine} {vacancyId : Text} :
    ¬l.joins vacancyId = true ↔ ∃ other, l.entry.vacancyId = some other ∧ other ≠ vacancyId := by
  rw [joins]
  cases l.entry.vacancyId <;> simp

/-- What makes a mapping read as an entry: its members do, and it has no others. -/
lemma read_eq_accepted {es : Entries} {entry : BatchEntry}
    (h : BatchEntry.read (.mapping es) = .accepted entry) :
    Check.optional es "applicant_id" none Check.textOrNull = .accepted entry.applicantId
      ∧ Check.optional es "documents" {} Documents.read = .accepted entry.documents
      ∧ ∀ e ∈ es, Check.hasSurrogates e.1 = false
        ∧ Check.keyIssue? ["applicant_id", "vacancy_id", "documents"] e.1 = none := by
  obtain ⟨es', hes, h⟩ := Check.andThen_eq_accepted.1 h
  cases hes
  obtain ⟨hmembers, hkeys⟩ := Check.closed_eq_accepted.1 h
  obtain ⟨ofDocuments, documents, hids, hdocuments, rfl⟩ := Check.seq_eq_accepted.1 hmembers
  obtain ⟨ofVacancy, vacancyId, hmk, -, rfl⟩ := Check.seq_eq_accepted.1 hids
  obtain ⟨applicantId, happlicantId, rfl⟩ := Check.map_eq_accepted.1 hmk
  exact ⟨happlicantId, hdocuments, hkeys⟩

/-- A line that is handed in as an application to a vacancy reads as its entry with that vacancy. -/
theorem read_request (l : ValidLine) (vacancyId : FilledText) :
    Submission.read (l.request vacancyId.text)
      = .accepted ⟨l.entry.applicantId, vacancyId, l.entry.documents⟩ := by
  obtain ⟨happlicant, hdocuments, hkeys⟩ := read_eq_accepted l.reads
  have hget (name : Text) := Entries.get?_put "vacancy_id" name (.text vacancyId.text) l.members
  -- the other members are left alone and read as they did in the line
  have hother (name : String) (hname : (Text.ofString "vacancy_id") ≠ name) :
      (Entries.put (.name "vacancy_id") (.text vacancyId.text) l.members).get? name
        = l.members.get? name := (hget name).trans (if_neg hname)
  have hvacancy : Check.required
      (Entries.put (.name "vacancy_id") (.text vacancyId.text) l.members) "vacancy_id"
      FilledText.read = .accepted vacancyId :=
    Check.required_eq ((hget "vacancy_id").trans (if_pos rfl)) vacancyId.read_text
  rw [Check.optional, ← hother "applicant_id" (by decide)] at happlicant
  rw [Check.optional, ← hother "documents" (by decide)] at hdocuments
  rw [request, Submission.read, Check.entries, Check.andThen_accepted, Check.closed_eq_accepted]
  refine ⟨?_, fun e he => ?_⟩
  · rw [hvacancy, Check.optional, Check.optional, happlicant, hdocuments]
    rfl
  · rcases Entries.mem_of_mem_put he with rfl | he
    · exact ⟨rfl, rfl⟩
    · exact hkeys e he

/-- The content of a valid line is the text of its object. -/
lemma parse_of_ofContent? {content : List Char} {l : ValidLine} (h : ofContent? content = some l) :
    Json.parse content = .ok (.mapping l.members) := by
  unfold ofContent? at h
  split at h
  · rename_i es hparse
    split at h
    · cases h
      exact hparse
    · cases h
  · cases h

lemma hasDecodedFacts {content : List Char} {l : ValidLine} (h : ofContent? content = some l) :
    l.entry.documents.HasDecodedFacts := by
  obtain ⟨-, hdocuments, -⟩ := read_eq_accepted l.reads
  exact Documents.hasDecodedFacts_of_optional (Json.isDecoded_of_parse (parse_of_ofContent? h))
    hdocuments

end ValidLine

/-! ## Reading a file -/

namespace ApplicationsFile

variable {number : Nat} {content : List Char} {rest ls : List (Nat × List Char)}
  {file : ApplicationsFile} {bytes : Text.Bytes}

/-- The lines of a file that hold more than blanks, with their numbers. -/
def lines (bytes : Text.Bytes) : List (Nat × List Char) :=
  Text.contentLines 1 (Text.splitLines (Text.decodeUtf8 bytes).chars)

/-- The valid ones among lines. -/
def validLines (ls : List (Nat × List Char)) : List ValidLine :=
  ls.filterMap fun line => ValidLine.ofContent? line.2

/-- A file that is read has no bytes that encode nothing, and all of its lines are read. -/
lemma read_ok (h : read bytes = .ok file) :
    (Text.decodeUtf8 bytes).fault = none ∧ readContents (lines bytes) = .ok file := by
  rw [read] at h
  obtain ⟨file', hcontents, h⟩ := Except.bind_eq_ok.1 h
  cases hfault : (Text.readLines bytes).fault with
  | some fault =>
    rw [hfault] at h
    cases h
  | none =>
    rw [hfault] at h
    cases h
    have hdecoded := Text.readLines_fault_eq_none.1 hfault
    rw [Text.readLines_of_fault_eq_none hdecoded] at hcontents
    exact ⟨hdecoded, hcontents⟩

/-- A line gives its entry if it is valid, and otherwise an error with its number. -/
lemma readLine_ok (h : readLine number content = .ok file) :
    (∃ l, ValidLine.ofContent? content = some l ∧ file = ⟨[l.entry], []⟩)
      ∨ (ValidLine.ofContent? content = none ∧ ∃ flaw, file = ⟨[], [⟨number, flaw⟩]⟩) := by
  -- both sides go by the same parse, so each branch of the one decides the other
  unfold readLine at h
  unfold ValidLine.ofContent?
  split at h
  · cases h
  · cases h
  · rename_i hparse
    cases h
    exact .inr ⟨by simp only [hparse], _, rfl⟩
  · rename_i es hparse
    simp only [hparse]
    split at h
    · rename_i entry hread
      cases h
      refine .inl ⟨⟨es, entry, hread⟩, ?_, rfl⟩
      split
      · rename_i hread'
        cases hread.symm.trans hread'
        rfl
      · rename_i hnot
        exact absurd hread (hnot entry)
    · rename_i issues hread
      cases h
      refine .inr ⟨?_, _, rfl⟩
      split
      · rename_i hread'
        cases hread.symm.trans hread'
      · rfl
    · cases h
  · rename_i v hnot hparse
    cases h
    refine .inr ⟨?_, _, rfl⟩
    split
    · rename_i es hparse'
      exact absurd (hparse.symm.trans hparse') fun heq => hnot es (Except.ok.inj heq)
    · rfl

/-- The first line of a file gives one entry or one error, in front of what the others give. -/
theorem readContents_cons_ok (h : readContents ((number, content) :: rest) = .ok file) :
    ∃ others, readContents rest = .ok others
      ∧ ((∃ l, ValidLine.ofContent? content = some l
          ∧ file = ⟨l.entry :: others.entries, others.errors⟩)
        ∨ (ValidLine.ofContent? content = none ∧ ∃ flaw,
          readLine number content = .ok ⟨[], [⟨number, flaw⟩]⟩
            ∧ file = ⟨others.entries, ⟨number, flaw⟩ :: others.errors⟩)) := by
  rw [readContents] at h
  obtain ⟨first, hfirst, h⟩ := Except.bind_eq_ok.1 h
  obtain ⟨others, hothers, h⟩ := Except.bind_eq_ok.1 h
  cases h
  refine ⟨others, hothers, ?_⟩
  rcases readLine_ok hfirst with ⟨l, hl, rfl⟩ | ⟨hnone, flaw, rfl⟩
  · exact .inl ⟨l, hl, rfl⟩
  · exact .inr ⟨hnone, flaw, hfirst, rfl⟩

/-- The entries of a file are those of its valid lines. -/
lemma entries_of_readContents (h : readContents ls = .ok file) :
    file.entries = (validLines ls).map (·.entry) := by
  induction ls generalizing file with
  | nil =>
    cases h
    rfl
  | cons line rest ih =>
    obtain ⟨number, content⟩ := line
    obtain ⟨others, hothers, ⟨l, hl, rfl⟩ | ⟨hnone, flaw, -, rfl⟩⟩ := readContents_cons_ok h
    · simp only [validLines, List.filterMap_cons, hl, List.map_cons, ih hothers]
    · simp only [validLines, List.filterMap_cons, hnone, ih hothers]

/-- The facts that come with the entries of a file are ones that a JSON text can say. -/
lemma hasDecodedFacts_of_read (h : read bytes = .ok file) {entry : BatchEntry}
    (hentry : entry ∈ file.entries) : entry.documents.HasDecodedFacts := by
  rw [entries_of_readContents (read_ok h).2] at hentry
  obtain ⟨l, hl, rfl⟩ := List.mem_map.1 hentry
  obtain ⟨line, -, hcontent⟩ := List.mem_filterMap.1 hl
  exact ValidLine.hasDecodedFacts hcontent

/-- A line that the JSON reader gets through: what it finds there is an entry, or something that it
reports.  Whether it does so has nothing to do with the number of the line. -/
def IsReadable (content : List Char) : Prop := ∃ file, readLine 1 content = .ok file

lemma isReadable_of_valid {l : ValidLine} (h : ValidLine.ofContent? content = some l) :
    IsReadable content := by
  rw [IsReadable, readLine, ValidLine.parse_of_ofContent? h]
  dsimp only
  rw [l.reads]
  exact ⟨_, rfl⟩

lemma exists_readLine_iff (number : Nat) :
    (∃ file, readLine number content = .ok file) ↔ IsReadable content := by
  unfold IsReadable readLine
  cases Json.parse content with
  | error fault => cases fault <;> simp
  | ok v =>
    cases v with
    | mapping es =>
      dsimp only
      cases BatchEntry.read (.mapping es) <;> simp
    | _ => simp

lemma exists_readContents_iff :
    (∃ file, readContents ls = .ok file) ↔ ∀ line ∈ ls, IsReadable line.2 := by
  induction ls with
  | nil => simp [readContents]
  | cons line rest ih =>
    obtain ⟨number, content⟩ := line
    rw [List.forall_mem_cons, ← ih, ← exists_readLine_iff number, readContents]
    cases readLine number content with
    | error fault => simp [bind, Except.bind]
    | ok first => cases readContents rest <;> simp [bind, Except.bind, pure, Except.pure]

/-- A file that decodes can be read if and only if each of its lines can. -/
lemma exists_read_iff (hdecoded : (Text.decodeUtf8 bytes).fault = none) :
    (∃ file, read bytes = .ok file) ↔ ∀ line ∈ lines bytes, IsReadable line.2 := by
  rw [← exists_readContents_iff, lines, read, Text.readLines_of_fault_eq_none hdecoded]
  simp only [bind, Except.bind]
  cases readContents (Text.contentLines 1 (Text.splitLines (Text.decodeUtf8 bytes).chars)) <;>
    simp [pure, Except.pure]

end ApplicationsFile

end Shortlist
