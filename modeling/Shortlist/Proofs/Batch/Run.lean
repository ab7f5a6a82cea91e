import Shortlist.Pipeline.Batch
import Shortlist.Proofs.Files.Directories
import Shortlist.Proofs.Json.Document
import Shortlist.Proofs.Pipeline.Atomicity
import Shortlist.Proofs.Pipeline.Events

/-!
# The course of a batch

A batch that comes back has registered the vacancy of its file, read the applications, decided on
the entries one after another and written its report.  `Pipeline.Decides` says what deciding on the
entries comes to, with one case for an entry that names another vacancy and one for an entry that is
decided on; `Pipeline.Course` names the sessions between the parts.

Everything that is to be said about a batch that came back is said about its course
(`nonempty_course`).  Decisions that break off do so over one of the entries
(`exec_decideEntries_error`).
-/

namespace Shortlist.Pipeline

open Session
open Shortlist.Action (exec exec_bind exec_bind_ok exec_bind_eq_ok exec_bind_eq_error)

variable {setup : Setup} {now : Instant} {paths : BatchPaths} {vacancyId : Text} {number : Nat}
  {entry : BatchEntry} {entries : List BatchEntry} {results : List Application}
  {mismatches : List BatchError} {report : BatchReport} {fault : Fault} {s s' : Session}

/-! ## Entries -/

/-- An entry is decided on if it names no vacancy, or the one of the batch. -/
def Joins (vacancyId : Text) (entry : BatchEntry) : Prop :=
  entry.vacancyId = none ∨ entry.vacancyId = some vacancyId

lemma filter_eq_none_iff :
    entry.vacancyId.filter (· ≠ vacancyId) = none ↔ Joins vacancyId entry := by
  rw [Joins]
  cases entry.vacancyId <;> simp [Option.filter]

/-- The entries from a given number on are decided on, one after another, with these results and
mismatches. -/
inductive Decides (setup : Setup) (now : Instant) (vacancyId : Text) :
    Nat → List BatchEntry → Session → List Application → List BatchError → Session → Prop where
  | nil (number : Nat) (s : Session) : Decides setup now vacancyId number [] s [] [] s
  | mismatch {number : Nat} {entry : BatchEntry} {rest : List BatchEntry} {other : Text}
    {s s₁ s' : Session} {results : List Application} {mismatches : List BatchError}
    (hother : entry.vacancyId = some other) (hne : other ≠ vacancyId) (hreport : s.Matches s₁)
    (hrest : Decides setup now vacancyId (number + 1) rest s₁ results mismatches s') :
    Decides setup now vacancyId number (entry :: rest) s results
      (.mismatch number other vacancyId :: mismatches) s'
  | application {number : Nat} {entry : BatchEntry} {rest : List BatchEntry} {a : Application}
    {s s₁ s' : Session} {results : List Application} {mismatches : List BatchError}
    (hjoins : Joins vacancyId entry)
    (hcreate : exec (createApplication setup now vacancyId entry.applicantId entry.documents) s
      = (.ok a, s₁))
    (hreducible : a.toValue.plainFault? false Application.levels = none)
    (hrest : Decides setup now vacancyId (number + 1) rest s₁ results mismatches s') :
    Decides setup now vacancyId number (entry :: rest) s (a :: results) mismatches s'

lemma exec_checkReducible_ok {a : Application}
    (h : exec (checkReducible a) s = (.ok (), s')) :
    a.toValue.plainFault? false Application.levels = none ∧ s' = s := by
  rw [checkReducible] at h
  split at h
  · rename_i hdump
    cases h
    exact ⟨(Value.dump?_eq_ok.1 hdump).1, rfl⟩
  · cases h

lemma exec_checkReducible_of_eq_none {a : Application}
    (h : a.toValue.plainFault? false Application.levels = none) (s : Session) :
    exec (checkReducible a) s = (.ok (), s) := by
  have hdump : Record.dump? a = .ok a.toValue.dump := Value.dump?_eq_ok.2 ⟨h, rfl⟩
  rw [checkReducible, hdump]
  rfl

lemma decides_of_exec
    (h : exec (decideEntries setup now vacancyId number entries) s
      = (.ok (results, mismatches), s')) :
    Decides setup now vacancyId number entries s results mismatches s' := by
  -- over the entries, in the order in which the decisions take them
  induction entries generalizing number s results mismatches with
  | nil =>
    cases h
    exact .nil number _
  | cons entry rest ih =>
    rw [decideEntries] at h
    cases hfilter : entry.vacancyId.filter (· ≠ vacancyId) with
    | some other =>
      obtain ⟨hother, hne⟩ := Option.filter_eq_some_iff.1 hfilter
      rw [hfilter, exec_bind_ok (exec_report _ _), exec_bind_eq_ok] at h
      obtain ⟨⟨results', mismatches'⟩, s₁, hrest, h⟩ := h
      rw [Action.exec_pure] at h
      cases h
      exact .mismatch hother (by simpa using hne) ⟨_, rfl⟩ (ih hrest)
    | none =>
      have hjoins : Joins vacancyId entry := filter_eq_none_iff.1 hfilter
      rw [hfilter, exec_bind_eq_ok] at h
      obtain ⟨a, s₁, hcreate, h⟩ := h
      rw [exec_bind_eq_ok] at h
      obtain ⟨_, s₂, hcheck, h⟩ := h
      obtain ⟨hreducible, rfl⟩ := exec_checkReducible_ok hcheck
      rw [exec_bind_eq_ok] at h
      obtain ⟨⟨results', mismatches'⟩, s₃, hrest, h⟩ := h
      rw [Action.exec_pure] at h
      cases h
      exact .application hjoins hcreate hreducible (ih hrest)

/-! ## Entries that fail -/

/-- Decisions that break off break off over one of the entries: those before it have been decided
on, and its application is not created or cannot be reduced. -/
lemma exec_decideEntries_error
    (h : exec (decideEntries setup now vacancyId number entries) s = (.error fault, s')) :
    ∃ before entry after results mismatches s₁, entries = before ++ entry :: after
      ∧ Joins vacancyId entry
      ∧ exec (decideEntries setup now vacancyId number before) s = (.ok (results, mismatches), s₁)
      ∧ exec (createApplication setup now vacancyId entry.applicantId entry.documents
          >>= checkReducible) s₁ = (.error fault, s') := by
  -- an entry that is passed over or decided on goes in front of those before the one that fails
  induction entries generalizing number s with
  | nil => cases h
  | cons entry rest ih =>
    rw [decideEntries] at h
    cases hfilter : entry.vacancyId.filter (· ≠ vacancyId) with
    | some other =>
      rw [hfilter, exec_bind_ok (exec_report _ _), exec_bind_eq_error] at h
      rcases h with h | ⟨_, _, -, h⟩
      · obtain ⟨before, failing, after, results, mismatches, s₁, rfl, hjoins, hbefore, hfails⟩ :=
          ih h
        refine ⟨entry :: before, failing, after, results,
          .mismatch number other vacancyId :: mismatches,
          s₁, rfl, hjoins, ?_, hfails⟩
        rw [decideEntries, hfilter, exec_bind_ok (exec_report _ _), exec_bind_ok hbefore]
        rfl
      · cases h
    | none =>
      have hjoins : Joins vacancyId entry := filter_eq_none_iff.1 hfilter
      rw [hfilter, exec_bind_eq_error] at h
      rcases h with h | ⟨a, s₁, hcreate, h⟩
      · exact ⟨[], entry, rest, [], [], s, rfl, hjoins, rfl, exec_bind_eq_error.2 (.inl h)⟩
      · rw [exec_bind_eq_error] at h
        rcases h with h | ⟨_, s₂, hcheck, h⟩
        · exact ⟨[], entry, rest, [], [], s, rfl, hjoins, rfl,
            exec_bind_eq_error.2 (.inr ⟨a, s₁, hcreate, h⟩)⟩
        · rw [exec_bind_eq_error] at h
          rcases h with h | ⟨_, _, -, h⟩
          · obtain ⟨before, failing, after, results, mismatches, s₃, rfl, hfailing, hbefore,
              hfails⟩ :=
              ih h
            refine ⟨entry :: before, failing, after, a :: results, mismatches, s₃, rfl,
              hfailing, ?_,
              hfails⟩
            rw [decideEntries, hfilter]
            dsimp only
            rw [exec_bind_ok hcreate, exec_bind_ok hcheck, exec_bind_ok hbefore]
            rfl
          · cases h

/-- An entry fails before its application is stored, or over an application that cannot be
reduced. -/
lemma exec_checked_error
    (h : exec (createApplication setup now vacancyId entry.applicantId entry.documents
      >>= checkReducible) s = (.error fault, s')) :
    exec (createApplication setup now vacancyId entry.applicantId entry.documents) s
        = (.error fault, s')
      ∨ ∃ a plainFault, fault = .irreducible plainFault
        ∧ a.toValue.plainFault? false Application.levels = some plainFault
        ∧ exec (createApplication setup now vacancyId entry.applicantId entry.documents) s
          = (.ok a, s') := by
  rw [exec_bind_eq_error] at h
  refine h.imp_right fun ⟨a, s₁, hcreate, h⟩ => ?_
  rw [checkReducible] at h
  split at h
  · cases h
  · rename_i plainFault hdump
    cases h
    refine ⟨a, plainFault, rfl, ?_, hcreate⟩
    change Value.dump? Application.levels a.toValue = _ at hdump
    rw [Value.dump?] at hdump
    split at hdump
    · rename_i hfault
      cases hdump
      exact hfault
    · cases hdump

/-! ## The parts of a batch -/

lemma exec_readFile_ok {p : Path} {content : Text.Bytes}
    (h : exec (readFile p) s = (.ok content, s')) : s.files.read p = .ok content ∧ s' = s := by
  rw [exec_readFile] at h
  cases hread : s.files.read p with
  | ok content' =>
    rw [hread] at h
    cases h
    exact ⟨rfl, rfl⟩
  | error o =>
    rw [hread] at h
    cases h

lemma exec_changeFiles_ok {change : Tree → Except Obstructed Tree}
    (h : exec (changeFiles change) s = (.ok (), s')) :
    ∃ files, change s.files = .ok files ∧ s' = { s with files } := by
  rw [exec_changeFiles] at h
  cases hchange : change s.files with
  | ok files =>
    rw [hchange] at h
    cases h
    exact ⟨files, rfl, rfl⟩
  | error o =>
    rw [hchange] at h
    cases h

/-- A vacancy is registered under an id that is drawn for it, and added to the store. -/
lemma exec_createVacancy_ok {document : Value} {v : Vacancy}
    (h : exec (createVacancy now document) s = (.ok v, s')) :
    v.id = (s.ids.fresh "vac").1
      ∧ ∃ vacancies files, s.store.vacancies.insert s.files v = .ok (vacancies, files)
        ∧ s'.store = { s.store with vacancies } ∧ s'.files = files := by
  rw [createVacancy, exec_bind_eq_ok] at h
  obtain ⟨draft, s₁, hread, h⟩ := h
  obtain ⟨-, rfl⟩ := exec_ofCheck_ok hread
  rw [registerVacancy, exec_bind_ok (exec_freshId _ _), exec_bind_eq_ok] at h
  obtain ⟨_, s₂, hinsert, h⟩ := h
  rw [exec_insertVacancy] at hinsert
  split at hinsert
  · rename_i vacancies files hinserted
    cases hinsert
    rw [exec_bind_ok (exec_report _ _), Action.exec_pure] at h
    obtain ⟨hv, rfl⟩ := Prod.mk.inj h
    obtain rfl := Except.ok.inj hv
    exact ⟨rfl, vacancies, files, hinserted, rfl, rfl⟩
  · cases hinsert

/-- A vacancy whose document reads as a draft is registered, if the store takes it. -/
lemma exec_createVacancy_of_insert (now : Instant) {document : Value} {draft : VacancyDraft}
    {vacancies : Collection Vacancy} {files : Tree}
    (hdraft : VacancyDraft.read document = .accepted draft)
    (hinsert : s.store.vacancies.insert s.files
      (draft.register (s.ids.fresh "vac").1 (timeText now))
      = .ok (vacancies, files)) :
    ∃ events, exec (createVacancy now document) s
      = (.ok (draft.register (s.ids.fresh "vac").1 (timeText now)),
          { s with
            files, store := { s.store with vacancies },
            ids := (s.ids.fresh "vac").2, events }) := by
  rw [createVacancy, hdraft, ofCheck, pure_bind, registerVacancy, exec_bind_ok (exec_freshId _ _),
    exec_bind, exec_insertVacancy, hinsert]
  exact ⟨_, rfl⟩

lemma exec_registerFile_ok {p : Path} {v : Vacancy}
    (h : exec (registerFile now p) s = (.ok v, s')) :
    ∃ document, (∃ bytes, s.files.read p = .ok bytes ∧ readVacancyFile bytes = .ok document)
      ∧ exec (createVacancy now document) s = (.ok v, s') := by
  rw [registerFile, exec_bind_eq_ok] at h
  obtain ⟨bytes, s₁, hfile, h⟩ := h
  obtain ⟨hbytes, rfl⟩ := exec_readFile_ok hfile
  split at h
  · rename_i document hdocument
    exact ⟨document, ⟨bytes, hbytes, hdocument⟩, h⟩
  · cases h
  · cases h

lemma exec_registerFile_of_read {p : Path} {bytes : Text.Bytes} {document : Value}
    (hbytes : s.files.read p = .ok bytes) (hdocument : readVacancyFile bytes = .ok document) :
    exec (registerFile now p) s = exec (createVacancy now document) s := by
  have hread : exec (readFile p) s = (.ok bytes, s) := by
    rw [exec_readFile, hbytes]
  rw [registerFile, exec_bind_ok hread, hdocument]

lemma exec_loadApplications_ok {p : Path} {file : ApplicationsFile}
    (h : exec (loadApplications p) s = (.ok file, s')) :
    ∃ content, s.files.read p = .ok content ∧ ApplicationsFile.read content = .ok file
      ∧ s.Matches s' := by
  rw [loadApplications, exec_bind_eq_ok] at h
  obtain ⟨content, s₁, hfile, h⟩ := h
  obtain ⟨hcontent, rfl⟩ := exec_readFile_ok hfile
  split at h
  · rename_i file' hread
    dsimp only at h
    split at h
    · cases h
      exact ⟨content, hcontent, hread, _, rfl⟩
    · cases h
      exact ⟨content, hcontent, hread, .refl _⟩
  · cases h

lemma exec_loadApplications_of_read {p : Path} {content : Text.Bytes} {file : ApplicationsFile}
    (hcontent : s.files.read p = .ok content) (hread : ApplicationsFile.read content = .ok file) :
    ∃ s', exec (loadApplications p) s = (.ok file, s') ∧ s.Matches s' := by
  have hfile : exec (readFile p) s = (.ok content, s) := by
    rw [exec_readFile, hcontent]
  rw [loadApplications, exec_bind_ok hfile, hread]
  dsimp only
  split
  · exact ⟨_, rfl, _, rfl⟩
  · exact ⟨s, rfl, .refl s⟩

/-- The output that has been written can be read, and nothing but the places along its path is
touched. -/
lemma exec_writeOutput_ok {p : Path} {v : Value}
    (h : exec (writeOutput p v) s = (.ok (), s')) :
    ∃ text bytes files, Json.document .page v = .ok text ∧ text.encode = .ok bytes
      ∧ Tree.SameOff p s.files files ∧ files.read p = .ok bytes ∧ s' = { s with files } := by
  rw [writeOutput, exec_bind_eq_ok] at h
  obtain ⟨_, s₁, hmake, h⟩ := h
  obtain ⟨t₁, hmade, rfl⟩ := exec_changeFiles_ok hmake
  split at h
  · cases h
  · rename_i text htext
    rw [exec_bind_eq_ok] at h
    obtain ⟨_, s₂, hempty, h⟩ := h
    obtain ⟨t₂, hemptied, rfl⟩ := exec_changeFiles_ok hempty
    split at h
    · cases h
    · rename_i bytes hbytes
      obtain ⟨t₃, hwritten, rfl⟩ := exec_changeFiles_ok h
      -- three changes after one another, each at the path of the output or above it
      have hparent : Tree.SameOff p s.files t₁ :=
        (Tree.sameOff_makeDirectories hmade).mono rfl (List.dropLast_prefix _)
      exact ⟨text, bytes, t₃, htext, hbytes,
        (hparent.trans (Tree.sameOff_write hemptied)).trans (Tree.sameOff_write hwritten),
        Tree.read_write hwritten, rfl⟩

/-! ## The course -/

/-- How a batch came to its report: the vacancy document was registered, the content of the file of
applications was read then, the entries were decided on, and the report was written. -/
structure Course (setup : Setup) (now : Instant) (paths : BatchPaths) (s : Session)
    (report : BatchReport) (s' : Session) where
  document : Value
  vacancy : Vacancy
  registered : Session
  content : Text.Bytes
  file : ApplicationsFile
  loaded : Session
  mismatches : List BatchError
  decided : Session
  reads_document : ∃ bytes, s.files.read paths.vacancy = .ok bytes
    ∧ readVacancyFile bytes = .ok document
  registers : exec (createVacancy now document) s = (.ok vacancy, registered)
  reads_content : registered.files.read paths.applications = .ok content
  reads_file : ApplicationsFile.read content = .ok file
  loads : registered.Matches loaded
  decides : Decides setup now vacancy.id 1 file.entries loaded report.results mismatches decided
  vacancyId : report.vacancyId = vacancy.id
  errors : report.errors = file.errors.map .line ++ mismatches
  finishedAt : report.finishedAt = timeText now
  writes : exec (writeOutput paths.output report.toValue) decided = (.ok (), s')

theorem nonempty_course (h : exec (runBatch setup now paths) s = (.ok report, s')) :
    Nonempty (Course setup now paths s report s') := by
  rw [runBatch, exec_bind_eq_ok] at h
  obtain ⟨vacancy, registered, hregister, h⟩ := h
  obtain ⟨document, hdocument, hcreate⟩ := exec_registerFile_ok hregister
  rw [exec_bind_eq_ok] at h
  obtain ⟨file, loaded, hload, h⟩ := h
  obtain ⟨content, hcontent, hfile, hloads⟩ := exec_loadApplications_ok hload
  rw [exec_bind_eq_ok] at h
  obtain ⟨⟨results, mismatches⟩, decided, hdecide, h⟩ := h
  rw [exec_bind_eq_ok] at h
  obtain ⟨_, written, hwrite, h⟩ := h
  rw [Action.exec_pure] at h
  cases h
  exact ⟨{
    document, vacancy, registered, content, file, loaded, mismatches, decided
    reads_document := hdocument
    registers := hcreate
    reads_content := hcontent
    reads_file := hfile
    loads := hloads
    decides := decides_of_exec hdecide
    vacancyId := rfl
    errors := rfl
    finishedAt := rfl
    writes := hwrite }⟩

/-! ## A batch that comes back -/

/-- An output whose directory is there is written, if its text has bytes. -/
lemma exec_writeOutput_of_hasRoom {p : Path} {v : Value} {text : Text} {bytes : Text.Bytes}
    (hroom : s.files.HasRoom p) (hparent : s.files.makeDirectories p.parent = .ok s.files)
    (htext : Json.document .page v = .ok text) (hbytes : text.encode = .ok bytes) :
    ∃ s', exec (writeOutput p v) s = (.ok (), s') := by
  have hempty := hroom.write []
  have hwrite := (hroom.of_write hempty).write bytes
  rw [writeOutput, exec_bind, exec_changeFiles, hparent]
  dsimp only
  rw [htext]
  dsimp only
  rw [exec_bind, exec_changeFiles, hempty]
  dsimp only
  rw [hbytes]
  dsimp only
  rw [exec_changeFiles, hwrite]
  exact ⟨_, rfl⟩

/-- The paths of a batch. -/
def analystPaths : BatchPaths :=
  ⟨⟨"/", ["vacancy.json"]⟩, ⟨"/", ["applications.jsonl"]⟩, ⟨"/", ["output.json"]⟩⟩

/-- A file that holds a posting. -/
def analystFile : Text.Bytes :=
  Text.encodeUtf8 (CodePoint.chars (Json.write .page 0 analystDraft.toValue))

/-- What a line says that names a vacancy of somebody else. -/
def strayValue : Value := .record [("vacancy_id", .text "w")]

/-- The line of an application for that vacancy. -/
def strayLine : List Char := CodePoint.chars (Json.write .record 0 strayValue)

/-- A file with an application that says nothing, a line that is no object, and an application for
another vacancy. -/
def analystLines : Text.Bytes :=
  Text.encodeUtf8 (['\x7b', '\x7d', '\n', '[', ']', '\n'] ++ strayLine)

/-- What is read from this file. -/
def analystEntries : ApplicationsFile :=
  ⟨[⟨none, none, {}⟩, ⟨none, some "w", {}⟩], [⟨2, .notObject⟩]⟩

/-- A session with these files in which nothing has been registered yet. -/
def analystBatch : Session where
  files :=
    ⟨[], [(["vacancy.json"], .file analystFile), (["applications.jsonl"], .file analystLines)]⟩
  store := .inMemory

/-- Nothing is assumed about a candidate. -/
def analystSetup : Setup where
  extractor := .standard .none

/-- The id of the posting that is registered. -/
def firstPostingId : FilledText := ⟨identifier "vac" 1, by decide +kernel⟩

/-- The posting that is registered. -/
def firstPosting : Vacancy := analystDraft.register (identifier "vac" 1) (timeText analystDay)

/-- A store that holds the posting, and no applications. -/
def firstStore : Store :=
  ⟨.memory ⟨[firstPosting], ({} : Std.HashMap Text Vacancy).insert firstPosting.id firstPosting⟩,
    .memory .empty⟩

lemma get?_firstStore (hvacancies : s.store.vacancies = firstStore.vacancies) :
    s.store.vacancies.get? s.files firstPosting.id = .ok (some firstPosting) := by
  rw [hvacancies, firstStore, Collection.get?, MemoryCollection.get?,
    Std.HashMap.getElem?_insert_self]

lemma insert_firstStore (hstore : s.store = firstStore) (a : Application) :
    s.store.applications.insert s.files a
      = .ok (.memory ⟨[a], ({} : Std.HashMap Text Application).insert a.id a⟩, s.files) := by
  simp only [hstore, firstStore, Collection.insert, MemoryCollection.insert,
    MemoryCollection.empty, Std.HashMap.contains_empty]
  rfl

/-- The report about the batch. -/
def firstReport : BatchReport where
  vacancyId := firstPosting.id
  results := [acceptance analystDay (identifier "app" 2) none firstPosting {} .none]
  errors := [.line ⟨2, .notObject⟩, .mismatch 2 "w" firstPosting.id]
  finishedAt := timeText analystDay

lemma readVacancyFile_analyst : readVacancyFile analystFile = .ok analystDraft.toValue := by
  have hplain : analystDraft.toValue.IsPlain := by rfl
  have hdocument : readDocument analystFile = .ok (.ok analystDraft.toValue) :=
    readDocument_document (n := 2) Json.Style.isSpaced_page hplain analystDraft.isDecoded_toValue
      rfl (by decide) rfl (Json.encode_write (n := 2) Json.Style.isSpaced_page hplain rfl)
  rw [readVacancyFile, hdocument]
  rfl

/-- The posting is registered first of all. -/
lemma exec_createVacancy_first (hstore : s.store = .inMemory) (hids : s.ids = {}) :
    ∃ events, exec (createVacancy analystDay analystDraft.toValue) s
      = (.ok firstPosting, { s with store := firstStore, ids := ⟨[], 2⟩, events }) := by
  obtain ⟨files, store, ids, asked, audit, events⟩ := s
  subst hstore hids
  have hdraft : VacancyDraft.read analystDraft.toValue = .accepted analystDraft := rfl
  have hinsert (v : Vacancy) : Store.inMemory.vacancies.insert files v
      = .ok (.memory ⟨[v], ({} : Std.HashMap Text Vacancy).insert v.id v⟩, files) := by
    simp only [Store.inMemory, Collection.insert, MemoryCollection.insert, MemoryCollection.empty,
      Std.HashMap.contains_empty]
    rfl
  exact exec_createVacancy_of_insert _ hdraft (hinsert _)

lemma exec_registerFile_first (hread : s.files.read analystPaths.vacancy = .ok analystFile)
    (hstore : s.store = .inMemory) (hids : s.ids = {}) :
    ∃ events, exec (registerFile analystDay analystPaths.vacancy) s
      = (.ok firstPosting, { s with store := firstStore, ids := ⟨[], 2⟩, events }) := by
  rw [exec_registerFile_of_read hread readVacancyFile_analyst]
  exact exec_createVacancy_first hstore hids

lemma readLine_strayLine (number : Nat) :
    ApplicationsFile.readLine number strayLine = .ok ⟨[⟨none, some "w", {}⟩], []⟩ := by
  have hdecoded : strayValue.IsDecoded :=
    Value.isDecoded_record (by decide) (List.forall_mem_singleton.2 (.text _))
  have hparse : Json.parse strayLine = .ok strayValue :=
    Json.parse_write (n := 2) Json.Style.isSpaced_record (by rfl) hdecoded rfl (by decide)
  rw [ApplicationsFile.readLine, hparse]
  rfl

lemma read_analystLines : ApplicationsFile.read analystLines = .ok analystEntries := by
  have hvalid : (Text.decodeUtf8 analystLines).fault = none := by
    rw [analystLines, Text.decodeUtf8_encodeUtf8]
  have hlines : Text.contentLines 1 (Text.readLines analystLines).lines
      = [(1, ['\x7b', '\x7d']), (2, ['[', ']']), (3, strayLine)] := by
    rw [Text.readLines_of_fault_eq_none hvalid, analystLines, Text.decodeUtf8_encodeUtf8]
    decide +kernel
  have hempty : ApplicationsFile.readLine 1 ['\x7b', '\x7d'] = .ok ⟨[⟨none, none, {}⟩], []⟩ := rfl
  have hbad : ApplicationsFile.readLine 2 ['[', ']'] = .ok ⟨[], [⟨2, .notObject⟩]⟩ := rfl
  rw [ApplicationsFile.read, hlines]
  simp only [ApplicationsFile.readContents, hempty, hbad, readLine_strayLine, bind, Except.bind,
    Text.readLines_fault_eq_none.2 hvalid]
  rfl

lemma exec_loadApplications_analyst (hfiles : s.files = analystBatch.files) :
    ∃ events, exec (loadApplications analystPaths.applications) s
      = (.ok analystEntries, { s with events }) := by
  have hread : s.files.read analystPaths.applications = .ok analystLines := by
    rw [hfiles]
    rfl
  rw [loadApplications, exec_bind, exec_readFile, hread]
  dsimp only
  rw [read_analystLines]
  exact ⟨_, rfl⟩

lemma exec_decideEntries_analyst (hstore : s.store = firstStore) (hids : s.ids = ⟨[], 2⟩)
    (haudit : s.audit = .off) :
    ∃ s', exec (decideEntries analystSetup analystDay firstPosting.id 1 analystEntries.entries) s
      = (.ok (firstReport.results, [.mismatch 2 "w" firstPosting.id]), s')
        ∧ s'.files = s.files := by
  have hfacts : (analystSetup.extractor.run s.asked {}).2 = .ok .none := rfl
  have hdecision : Decision.ofFacts analystSetup analystDay firstPosting.requirements .none
      = .ok ⟨⟨[]⟩, some "; "⟩ := rfl
  obtain ⟨s', hcreate⟩ : ∃ s',
      exec (createApplication analystSetup analystDay firstPosting.id none {}) s
        = (.ok (acceptance analystDay (s.ids.fresh "app").1 none firstPosting {} .none), s') :=
    exec_createApplication_of_met (by rw [haudit]; exact AuditTrail.isContained_off) rfl
      (get?_firstStore (by rw [hstore])) hfacts hdecision rfl (insert_firstStore hstore _)
  have hfiles : s'.files = s.files := by
    obtain ⟨v, ruling, applications, added, happlication, hsettled⟩ :=
      exec_createApplication_ok hcreate
    have hinserted := hsettled.inserted
    rw [happlication, insert_firstStore hstore] at hinserted
    cases hinserted
    rw [hsettled.files, haudit, AuditTrail.append_off]
  rw [hids] at hcreate
  have hmismatch : exec (decideEntries analystSetup analystDay firstPosting.id 2
      [⟨none, some "w", {}⟩]) s'
        = (.ok ([], [.mismatch 2 "w" firstPosting.id]),
          { s' with events := s'.events ++ [.vacancyMismatch 2 "w" firstPosting.id] }) := rfl
  have hreducible :
      exec (checkReducible (acceptance analystDay (identifier "app" 2) none firstPosting
      {} .none)) s' = (.ok (), s') := rfl
  refine ⟨{ s' with events := s'.events ++ [.vacancyMismatch 2 "w" firstPosting.id] }, ?_, hfiles⟩
  rw [analystEntries, decideEntries]
  dsimp only [Option.filter]
  rw [exec_bind_ok hcreate]
  exact (exec_bind_ok hreducible _).trans (exec_bind_ok hmismatch _)

/-- The application of the file is decided on, and the report is written. -/
lemma exists_runBatch_analyst :
    ∃ s', exec (runBatch analystSetup analystDay analystPaths) analystBatch
      = (.ok firstReport, s') := by
  obtain ⟨events, hregister⟩ := exec_registerFile_first (s := analystBatch) rfl rfl rfl
  generalize hs : ({ analystBatch with store := firstStore, ids := ⟨[], 2⟩, events } : Session) = s
    at hregister
  obtain ⟨loaded, hload⟩ := exec_loadApplications_analyst (s := s) (by rw [← hs])
  obtain ⟨decided, hdecide, hfiles⟩ :
      ∃ s', exec (decideEntries analystSetup analystDay firstPosting.id 1 analystEntries.entries)
          { s with events := loaded }
        = (.ok (firstReport.results, [.mismatch 2 "w" firstPosting.id]), s') ∧ s'.files = s.files :=
    exec_decideEntries_analyst (by rw [← hs]) (by rw [← hs]) (by rw [← hs]; rfl)
  have hroom : analystBatch.files.HasRoom analystPaths.output := ⟨rfl, rfl, by decide⟩
  have hroom' : decided.files.HasRoom analystPaths.output := by
    rw [hfiles, ← hs]
    exact hroom
  have hparent : decided.files.makeDirectories analystPaths.output.parent = .ok decided.files := rfl
  have hplain : firstReport.toValue.IsPlain := by rfl
  have hfault : firstReport.toValue.plainFault? true 300 = none := by decide +kernel
  obtain ⟨s', hwrite⟩ : ∃ s', exec (writeOutput analystPaths.output firstReport.toValue) decided
      = (.ok (), s') :=
    exec_writeOutput_of_hasRoom hroom' hparent rfl
      (Json.encode_write Json.Style.isSpaced_page hplain hfault)
  refine ⟨s', ?_⟩
  rw [runBatch, exec_bind_ok hregister, exec_bind_ok hload, exec_bind_ok hdecide]
  dsimp only
  exact exec_bind_ok hwrite _

end Shortlist.Pipeline
