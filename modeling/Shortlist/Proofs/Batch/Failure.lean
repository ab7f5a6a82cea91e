import Shortlist.Proofs.Batch.OutputFile
import Shortlist.Proofs.Batch.Progress

/-!
# Batches that break off

A batch may break off before its vacancy is registered, over the file of applications, over one of
the entries, or over its report.  What it leaves behind in a store in memory is then the vacancy, if
it was registered, and the decisions on the entries before the one that failed, which are those of a
batch over a file that ends there (`Pipeline.Halts`).  A recorder has one record for each of these.

There are two exceptions, in which an entry fails after its application has been stored.  The
application may turn out to be one that cannot be reduced: it stays in the store, although the
recorder has no record of it (`Pipeline.Halts.unreduced`).  And something may escape from the audit
trail (`Pipeline.Halts.escaped`), though not from a recorder that never fails.
-/

namespace Shortlist.Pipeline

open Session
open Shortlist.Action (exec exec_bind exec_bind_ok exec_bind_error exec_bind_eq_ok
  exec_bind_eq_error)

variable {setup : Setup} {now : Instant} {paths : BatchPaths} {p : Path} {vacancyId : Text}
  {number : Nat} {v : Vacancy} {entry : BatchEntry} {before entries : List BatchEntry}
  {results : List Application} {mismatches : List BatchError} {told : List AuditRecord}
  {fault : Fault} {l : Ledger} {s s' s₁ registered loaded : Session}

/-! ## The parts of a batch that fail -/

lemma exec_readFile_error {content : Fault} (h : exec (readFile p) s = (.error content, s')) :
    s' = s := by
  rw [exec_readFile] at h
  split at h
  · cases h
  · cases h
    rfl

lemma exec_ofCheck_error {α : Type} {subject : Subject} {check : Check α}
    (h : exec (ofCheck subject check) s = (.error fault, s')) : s' = s := by
  cases check with
  | accepted a => cases h
  | refused issues =>
    cases h
    rfl
  | broken fault =>
    cases h
    rfl

/-- A vacancy that is not registered changes nothing. -/
lemma exec_createVacancy_error {document : Value}
    (h : exec (createVacancy now document) s = (.error fault, s')) : Untouched s s' := by
  rw [createVacancy, exec_bind_eq_error] at h
  rcases h with h | ⟨draft, s₁, hread, h⟩
  · obtain rfl := exec_ofCheck_error h
    exact .refl _
  · obtain ⟨-, rfl⟩ := exec_ofCheck_ok hread
    rw [registerVacancy, exec_bind_ok (exec_freshId _ _), exec_bind_eq_error] at h
    rcases h with h | ⟨_, s₂, -, h⟩
    · rw [exec_insertVacancy] at h
      split at h
      · cases h
      · cases h
        exact ⟨rfl, rfl, rfl⟩
    · rw [exec_bind_ok (exec_report _ _), Action.exec_pure] at h
      cases h

lemma exec_registerFile_error (h : exec (registerFile now p) s = (.error fault, s')) :
    Untouched s s' := by
  rw [registerFile, exec_bind_eq_error] at h
  rcases h with h | ⟨bytes, s₁, hfile, h⟩
  · obtain rfl := exec_readFile_error h
    exact .refl _
  · obtain ⟨-, rfl⟩ := exec_readFile_ok hfile
    split at h
    · exact exec_createVacancy_error h
    · cases h
      exact .refl _
    · cases h
      exact .refl _

/-- A file of applications at the end of a path. -/
def Loads (files : Tree) (p : Path) (file : ApplicationsFile) : Prop :=
  ∃ content, files.read p = .ok content ∧ ApplicationsFile.read content = .ok file

lemma exec_loadApplications_error (h : exec (loadApplications p) s = (.error fault, s')) :
    s' = s ∧ ∀ file, ¬Loads s.files p file := by
  constructor
  · rw [loadApplications, exec_bind_eq_error] at h
    rcases h with h | ⟨content, s₁, hfile, h⟩
    · exact exec_readFile_error h
    · obtain ⟨-, rfl⟩ := exec_readFile_ok hfile
      split at h
      · dsimp only at h
        split at h <;> cases h
      · cases h
        rfl
  · rintro file ⟨content, hcontent, hread⟩
    obtain ⟨loaded, hload, -⟩ := exec_loadApplications_of_read hcontent hread
    cases hload.symm.trans h

/-! ## What is left behind -/

/-- The vacancy of a batch: the next one, for the draft in its file. -/
def IsBatchVacancy (now : Instant) (paths : BatchPaths) (s : Session) (v : Vacancy) : Prop :=
  ∃ bytes document draft, s.files.read paths.vacancy = .ok bytes
    ∧ readVacancyFile bytes = .ok document ∧ VacancyDraft.read document = .accepted draft
    ∧ v = s.nextVacancy now draft

/-- What has been done to a store in memory when a batch has registered its vacancy and has decided
on these entries. -/
structure HasDecided (setup : Setup) (now : Instant) (l : Ledger) (s : Session) (v : Vacancy)
    (entries : List BatchEntry) (results : List Application) (told : List AuditRecord)
    (s' : Session) : Prop where
  decisions : List.Forall₂ (IsDecisionOn setup now v) (joining v.id entries) results
  holds : s'.Holds ⟨l.vacancies ++ [v], l.applications ++ results⟩
  about : List.Forall₂ (AuditRecord.IsAbout setup) results told
  recorded : s.audit.Remembers told s'.audit

/-- A session with the same store and the same trail. -/
lemma HasDecided.of_eq (h : HasDecided setup now l s v entries results told s')
    (hstore : s₁.store = s'.store) (haudit : s₁.audit = s'.audit) :
    HasDecided setup now l s v entries results told s₁ :=
  ⟨h.decisions, h.holds.of_store_eq hstore, h.about, haudit ▸ h.recorded⟩

/-- Whatever the other files are, a batch of the same vacancy document over a file with these
entries and no others does the same to the store and to the trail, and comes back with these results
if it comes back. -/
def EndsAlike (setup : Setup) (now : Instant) (paths : BatchPaths) (l : Ledger) (s : Session)
    (v : Vacancy) (entries : List BatchEntry) (results : List Application)
    (told : List AuditRecord) : Prop :=
  ∀ (files : Tree) (others : BatchPaths) (errors : List LineError),
    files.read others.vacancy = s.files.read paths.vacancy →
    Loads files others.applications ⟨entries, errors⟩ →
      HasDecided setup now l s v entries results told
          (exec (runBatch setup now others) { s with files }).2
        ∧ ∀ report s', exec (runBatch setup now others) { s with files } = (.ok report, s') →
          report.results = results

/-- The points at which a batch over a store in memory can break off, and what it leaves behind: the
vacancy is not registered; the file of applications is not loaded; the application of an entry is
not created; it is created, but something escapes from the audit trail; it is created, but cannot be
reduced; the report is not written. -/
inductive Halts (setup : Setup) (now : Instant) (paths : BatchPaths) (l : Ledger) (s : Session)
    (fault : Fault) (s' : Session) : Prop where
  | unregistered (holds : s'.Holds l) (audit : s'.audit = s.audit)
  | unloaded (v : Vacancy) (vacancy : IsBatchVacancy now paths s v)
    (file : ∀ file, ¬Loads s.files paths.applications file)
    (holds : s'.Holds { l with vacancies := l.vacancies ++ [v] }) (audit : s'.audit = s.audit)
  | undecided (v : Vacancy) (before : List BatchEntry) (entry : BatchEntry)
    (after : List BatchEntry) (errors : List LineError) (results : List Application)
    (told : List AuditRecord) (s₁ : Session)
    (vacancy : IsBatchVacancy now paths s v)
    (file : Loads s.files paths.applications ⟨before ++ entry :: after, errors⟩)
    (joins : Joins v.id entry) (alike : EndsAlike setup now paths l s v before results told)
    (decided : HasDecided setup now l s v before results told s')
    (untouched : Untouched s₁ s')
    (fails : exec (createApplication setup now v.id entry.applicantId entry.documents) s₁
      = (.error fault, s'))
  | escaped (v : Vacancy) (before : List BatchEntry) (entry : BatchEntry) (after : List BatchEntry)
    (errors : List LineError) (results : List Application) (told : List AuditRecord)
    (a : Application) (raised : Escape) (s₁ : Session) (vacancy : IsBatchVacancy now paths s v)
    (file : Loads s.files paths.applications ⟨before ++ entry :: after, errors⟩)
    (joins : Joins v.id entry) (alike : EndsAlike setup now paths l s v before results told)
    (decided : HasDecided setup now l s v before results told s₁)
    (decision : IsDecisionOn setup now v entry a)
    (escapes : s₁.audit.Escapes raised) (fault_eq : fault = .recorder raised)
    (holds : s'.Holds ⟨l.vacancies ++ [v], l.applications ++ results ++ [a]⟩)
  | unreduced (v : Vacancy) (before : List BatchEntry) (entry : BatchEntry)
    (after : List BatchEntry) (errors : List LineError) (results : List Application)
    (told : List AuditRecord) (a : Application) (plainFault : Value.PlainFault)
    (vacancy : IsBatchVacancy now paths s v)
    (file : Loads s.files paths.applications ⟨before ++ entry :: after, errors⟩)
    (joins : Joins v.id entry) (alike : EndsAlike setup now paths l s v before results told)
    (decisions : List.Forall₂ (IsDecisionOn setup now v) (joining v.id before) results)
    (decision : IsDecisionOn setup now v entry a)
    (fails : a.toValue.plainFault? false Application.levels = some plainFault)
    (fault_eq : fault = .irreducible plainFault)
    (holds : s'.Holds ⟨l.vacancies ++ [v], l.applications ++ results ++ [a]⟩)
    (about : List.Forall₂ (AuditRecord.IsAbout setup) results told)
    (recorded : s.audit.Remembers told s'.audit)
  | unwritten (v : Vacancy) (entries : List BatchEntry) (errors : List LineError)
    (results : List Application) (told : List AuditRecord) (vacancy : IsBatchVacancy now paths s v)
    (file : Loads s.files paths.applications ⟨entries, errors⟩)
    (decided : HasDecided setup now l s v entries results told s')

/-! ## The decisions before a failure -/

/-- A vacancy that is registered is the next one for the draft that its document reads as. -/
lemma exec_createVacancy_eq_ok {document : Value}
    (h : exec (createVacancy now document) s = (.ok v, s')) :
    ∃ draft vacancies files events, VacancyDraft.read document = .accepted draft
      ∧ v = s.nextVacancy now draft
      ∧ s.store.vacancies.insert s.files v = .ok (vacancies, files)
      ∧ s' = { s with
          files, store := { s.store with vacancies }, ids := (s.ids.fresh "vac").2, events } := by
  have hcreate := h
  rw [createVacancy, exec_bind_eq_ok] at h
  obtain ⟨draft, _, hread, h⟩ := h
  obtain ⟨hdraft, hsame⟩ := exec_ofCheck_ok hread
  rw [hsame, registerVacancy, exec_bind_ok (exec_freshId _ _), exec_bind_eq_ok] at h
  obtain ⟨_, s₁, hinsert, -⟩ := h
  rw [exec_insertVacancy] at hinsert
  split at hinsert
  · rename_i vacancies files hinserted
    obtain ⟨events, hregistered⟩ := exec_createVacancy_of_insert (s := s) now hdraft hinserted
    cases hregistered.symm.trans hcreate
    exact ⟨draft, vacancies, files, events, hdraft, rfl, hinserted, rfl⟩
  · cases hinsert

/-- A vacancy that is registered in a store in memory stands at the end of the vacancies, under a
new id. -/
lemma exec_createVacancy_keeps {document : Value} (hl : s.Holds l)
    (h : exec (createVacancy now document) s = (.ok v, s')) :
    (∃ draft, VacancyDraft.read document = .accepted draft ∧ v = s.nextVacancy now draft)
      ∧ s'.Holds { l with vacancies := l.vacancies ++ [v] }
      ∧ (l.vacancies ++ [v]).find? (fun w => w.id = v.id) = some v
      ∧ s'.files = s.files ∧ s'.audit = s.audit := by
  obtain ⟨draft, vacancies, files, events, hdraft, hv, hinsert, rfl⟩ := exec_createVacancy_eq_ok h
  obtain ⟨rfl, hnew, hheld⟩ := hl.of_insert_vacancy hinsert
  have hfind : (l.vacancies ++ [v]).find? (fun w => w.id = v.id) = some v := by
    rw [List.find?_append, List.find?_eq_none.2 (by simpa using hnew)]
    simp
  exact ⟨⟨draft, hdraft, hv⟩, hheld _ rfl, hfind, rfl, rfl⟩

lemma exec_registerFile_keeps (hl : s.Holds l)
    (h : exec (registerFile now paths.vacancy) s = (.ok v, s')) :
    IsBatchVacancy now paths s v ∧ s'.Holds { l with vacancies := l.vacancies ++ [v] }
      ∧ (l.vacancies ++ [v]).find? (fun w => w.id = v.id) = some v
      ∧ s'.files = s.files ∧ s'.audit = s.audit := by
  obtain ⟨document, ⟨bytes, hbytes, hdocument⟩, hcreate⟩ := exec_registerFile_ok h
  obtain ⟨⟨draft, hdraft, hv⟩, hkeeps⟩ := exec_createVacancy_keeps hl hcreate
  exact ⟨⟨bytes, document, draft, hbytes, hdocument, hdraft, hv⟩, hkeeps⟩

/-- What the decisions of a batch on entries have done. -/
lemma hasDecided_of_exec (hl : s.Holds l)
    (hregister : exec (registerFile now paths.vacancy) s = (.ok v, registered))
    (hloads : registered.Matches loaded)
    (hdecide : exec (decideEntries setup now v.id 1 entries) loaded
      = (.ok (results, mismatches), s')) :
    ∃ told, HasDecided setup now l s v entries results told s' := by
  obtain ⟨-, hheld, hfind, -, haudit⟩ := exec_registerFile_keeps hl hregister
  obtain ⟨events, rfl⟩ := hloads
  obtain ⟨hdecisions, hholds, told, habout, hrecorded⟩ :=
    (decides_of_exec hdecide).keeps (hheld.of_store_eq rfl) hfind
  exact ⟨told, hdecisions, hholds, habout, haudit ▸ hrecorded⟩

/-- A report that is written or not changes neither the store nor the trail. -/
lemma exec_writeOutput_keeps (p : Path) (value : Value) (s : Session) :
    (exec (writeOutput p value) s).2.store = s.store
      ∧ (exec (writeOutput p value) s).2.audit = s.audit := by
  rcases h : exec (writeOutput p value) s with ⟨fault | u, s'⟩
  · obtain ⟨files, rfl, -⟩ := exec_writeOutput_error h
    exact ⟨rfl, rfl⟩
  · obtain ⟨-, -, files, -, -, -, -, rfl⟩ := exec_writeOutput_ok h
    exact ⟨rfl, rfl⟩

/-- A batch over a file that ends with the entries that have been decided on decides alike: it acts
like the first one, up to the end of its file. -/
lemma endsAlike_of_exec (hl : s.Holds l)
    (hregister : exec (registerFile now paths.vacancy) s = (.ok v, registered))
    (hloads : registered.Matches loaded)
    (hdecide : exec (decideEntries setup now v.id 1 entries) loaded
      = (.ok (results, mismatches), s₁))
    (hdecided : HasDecided setup now l s v entries results told s₁) :
    EndsAlike setup now paths l s v entries results told := by
  rintro files others errors hvacancy ⟨content, hcontent, hread⟩
  obtain ⟨document, ⟨bytes, hbytes, hdocument⟩, hcreate⟩ := exec_registerFile_ok hregister
  have hrespected := ActsAlike.isRespected setup now
  -- the vacancy is the same one
  obtain ⟨houtcome, halike⟩ := Action.agreeUntil_never.1
    (hrespected.createVacancy document s _ (ActsAlike.withFiles hl files))
  rw [hcreate] at houtcome halike
  generalize hsecond : exec (createVacancy now document) { s with files } = second
    at houtcome halike
  obtain ⟨_, registered'⟩ := second
  obtain rfl : _ = Except.ok v := houtcome
  have hl' : Session.Holds { s with files } l := hl.of_store_eq rfl
  obtain ⟨-, -, -, hfiles, -⟩ := exec_createVacancy_keeps hl' hsecond
  have hregister' :
      exec (registerFile now others.vacancy) { s with files } = (.ok v, registered') :=
    (exec_registerFile_of_read (hvacancy.trans hbytes) hdocument).trans hsecond
  -- and so are the decisions on the entries
  obtain ⟨loaded', hload', hloads'⟩ := exec_loadApplications_of_read
    (s := registered') (by rw [hfiles]; exact hcontent) hread
  obtain ⟨houtcome, halike⟩ := Action.agreeUntil_never.1
    (hrespected.decideEntries v.id 1 (fun _ _ => trivial) loaded loaded'
      (halike.of_matches hloads hloads'))
  rw [hdecide] at houtcome halike
  generalize hthird : exec (decideEntries setup now v.id 1 entries) loaded' = third
    at houtcome halike
  obtain ⟨_, decided⟩ := third
  obtain rfl : _ = Except.ok (results, mismatches) := houtcome
  have hdecided' := hdecided.of_eq halike.store halike.audit
  rw [runBatch, exec_bind_ok hregister', exec_bind_ok hload', exec_bind_ok hthird, exec_bind]
  dsimp only
  obtain ⟨hstore, haudit⟩ := exec_writeOutput_keeps others.output
    (BatchReport.toValue ⟨v.id, results, errors.map .line ++ mismatches, timeText now⟩) decided
  generalize exec (writeOutput others.output _) decided = written at hstore haudit ⊢
  obtain ⟨fault | u, s'⟩ := written
  · refine ⟨hdecided'.of_eq hstore haudit, fun report s' h => by cases h⟩
  · refine ⟨hdecided'.of_eq hstore haudit, fun report s' h => ?_⟩
    cases h
    rfl

/-- Decisions that break off leave behind what was decided before the entry that failed, and the
application of this entry if it was created. -/
lemma halts_of_decideEntries {file : ApplicationsFile} (hl : s.Holds l)
    (hregister : exec (registerFile now paths.vacancy) s = (.ok v, registered))
    (hloads : registered.Matches loaded) (hfile : Loads s.files paths.applications file)
    (h : exec (decideEntries setup now v.id 1 file.entries) loaded = (.error fault, s')) :
    Halts setup now paths l s fault s' := by
  obtain ⟨entries, errors⟩ := file
  obtain ⟨hvacancy, -, hfind, -⟩ := exec_registerFile_keeps hl hregister
  obtain ⟨before, entry, after, results, mismatches, s₁, rfl, hjoins, hbefore, hfails⟩ :=
    exec_decideEntries_error h
  obtain ⟨told, hdecided⟩ := hasDecided_of_exec hl hregister hloads hbefore
  have halike := endsAlike_of_exec hl hregister hloads hbefore hdecided
  -- the entry fails before it is stored, over its record, or when it is reduced
  rcases exec_checked_error hfails with hfails | ⟨a, plainFault, rfl, hfault, hcreate⟩
  · rcases exec_createApplication_error hfails with huntouched | ⟨w, ruling, _, _, hsettled, hbroke⟩
    · exact .undecided v before entry after errors results told s₁ hvacancy hfile hjoins halike
        (hdecided.of_eq huntouched.store huntouched.audit) huntouched hfails
    · obtain ⟨hdecision, hheld⟩ := hsettled.keeps hdecided.holds hfind
      obtain ⟨raised, rfl, hescapes⟩ := escapes_of_goOn hbroke
      exact .escaped v before entry after errors results told ruling.application raised s₁ hvacancy
        hfile hjoins halike hdecided hdecision hescapes rfl hheld
  · obtain ⟨hdecision, hheld, -, hunrecorded⟩ :=
      exec_createApplication_keeps hdecided.holds hfind hcreate
    have hrecorded := hdecided.recorded.trans (hunrecorded (by rw [hfault]; simp))
    rw [List.append_nil] at hrecorded
    exact .unreduced v before entry after errors results told a plainFault hvacancy hfile hjoins
      halike hdecided.decisions hdecision hfault rfl hheld hdecided.about hrecorded

/-- A batch over a store in memory that breaks off leaves behind the vacancy, if it was registered,
and the decisions on the entries before the one that failed, each of them recorded; an entry whose
application cannot be reduced leaves this application behind, too, which is not recorded, and so
does an entry over which something escapes from the audit trail.  The output file is as it was, if
the trail is not kept there, unless the document of the report has no bytes. -/
theorem runBatch_halts (hl : s.Holds l)
    (h : exec (runBatch setup now paths) s = (.error fault, s')) :
    Halts setup now paths l s fault s'
      ∧ (s.audit.Spares s.files paths.output →
        s'.files.fileAt (s.files.resolve paths.output)
          = fault.leaves (s.files.fileAt (s.files.resolve paths.output))) := by
  constructor
  -- part by part: where one breaks off, those before it have come back
  · rw [runBatch, exec_bind_eq_error] at h
    rcases h with h | ⟨v, registered, hregister, h⟩
    · have huntouched := exec_registerFile_error h
      exact .unregistered (hl.of_store_eq huntouched.store) huntouched.audit
    obtain ⟨hvacancy, hheld, -, hfiles, haudit⟩ := exec_registerFile_keeps hl hregister
    rw [exec_bind_eq_error] at h
    rcases h with h | ⟨⟨entries, errors⟩, loaded, hload, h⟩
    · obtain ⟨rfl, hnone⟩ := exec_loadApplications_error h
      exact .unloaded v hvacancy (hfiles ▸ hnone) hheld haudit
    obtain ⟨content, hcontent, hread, hloads⟩ := exec_loadApplications_ok hload
    have hfile : Loads s.files paths.applications ⟨entries, errors⟩ :=
      ⟨content, hfiles ▸ hcontent, hread⟩
    rw [exec_bind_eq_error] at h
    rcases h with h | ⟨⟨results, mismatches⟩, decided, hdecide, h⟩
    · exact halts_of_decideEntries hl hregister hloads hfile h
    rw [exec_bind_eq_error] at h
    rcases h with h | ⟨_, _, -, h⟩
    · obtain ⟨told, hdecided⟩ := hasDecided_of_exec hl hregister hloads hdecide
      obtain ⟨hstore, haudit⟩ := exec_writeOutput_keeps paths.output
        (BatchReport.toValue ⟨v.id, results, errors.map .line ++ mismatches, timeText now⟩) decided
      rw [h] at hstore haudit
      exact .unwritten v entries errors results told hvacancy hfile (hdecided.of_eq hstore haudit)
    · cases h
  · intro hspares
    have haway : s.IsAwayFrom (s.files.resolve paths.output) := by
      obtain ⟨vacancies, applications, hstore, -⟩ := hl
      refine ⟨fun p hp => (hspares p hp).symm, fun p hp => ?_, fun p hp => ?_⟩ <;>
      · rw [hstore] at hp
        cases hp
    exact fileAt_of_runBatch_error haway h

/-- An extractor that answers once. -/
def wearySetup : Setup where
  extractor := .answering fun asked _ =>
    .atOnce (if asked = 0 then .facts .none else .refused "no more")

/-- A file of two applications that say nothing. -/
def twinLines : Text.Bytes := Text.encodeUtf8 ['\x7b', '\x7d', '\n', '\x7b', '\x7d']

/-- A session with this file and a recorder in which nothing has been registered yet. -/
def twinBatch : Session where
  files := ⟨[], [(["vacancy.json"], .file analystFile), (["applications.jsonl"], .file twinLines)]⟩
  store := .inMemory
  audit := .reliable

lemma loads_twin :
    Loads twinBatch.files analystPaths.applications ⟨[⟨none, none, {}⟩, ⟨none, none, {}⟩], []⟩ := by
  have hfault : (Text.decodeUtf8 twinLines).fault = none := by
    rw [twinLines, Text.decodeUtf8_encodeUtf8]
  refine ⟨twinLines, rfl, ?_⟩
  rw [ApplicationsFile.read, Text.readLines_of_fault_eq_none hfault, twinLines,
    Text.decodeUtf8_encodeUtf8]
  rfl

/-- A submission fails if the extractor does. -/
lemma exec_createApplication_of_refusal {applicantId : Option Text} {documents : Documents}
    {refusal : ExtractionFault}
    (hget : s.store.vacancies.get? s.files vacancyId = .ok (some v))
    (hrefused : (setup.extractor.run s.asked documents).2 = .error refusal) :
    exec (createApplication setup now vacancyId applicantId documents) s
      = (.error (.extraction refusal), { s with
          asked := s.asked + 1,
          events := s.events ++ (setup.extractor.run s.asked documents).1 }) := by
  rw [createApplication, exec_bind_ok (exec_openSubmission_of_get? hget),
    exec_bind_ok (exec_askExtractor _ _ _), decide, exec_bind_ok (exec_report _ _), hrefused]
  rfl

/-- The first application is created, and the extractor fails on the second one. -/
lemma exec_decideEntries_twin (hcontained : s.audit.IsContained) (hstore : s.store = firstStore)
    (hids : s.ids = ⟨[], 2⟩) (hasked : s.asked = 0) :
    ∃ s', exec (decideEntries wearySetup analystDay firstPosting.id 1
        [⟨none, none, {}⟩, ⟨none, none, {}⟩]) s
      = (.error (.extraction (.refused "no more")), s') := by
  have hfacts : (wearySetup.extractor.run s.asked {}).2 = .ok .none := by
    rw [hasked]
    rfl
  have hdecision : Decision.ofFacts wearySetup analystDay firstPosting.requirements .none
      = .ok ⟨⟨[]⟩, some "; "⟩ := rfl
  obtain ⟨s₁, hfirst, hvacancies, hasked₁⟩ : ∃ s₁,
      exec (createApplication wearySetup analystDay firstPosting.id none {}) s
          = (.ok (OpenSubmission.decided ⟨firstPosting, none, {}⟩ analystDay
            (identifier "app" 2) .none
              ⟨⟨[]⟩, some "; "⟩ none), s₁)
        ∧ s₁.store.vacancies = firstStore.vacancies ∧ s₁.asked = 1 := by
    obtain ⟨record, events, hcreate⟩ := exec_createApplication_of_decision hcontained wearySetup
      none {} (get?_firstStore (by rw [hstore])) hfacts hdecision rfl (insert_firstStore hstore _)
    rw [hids, hasked] at hcreate
    exact ⟨_, hcreate, by rw [hstore], rfl⟩
  have hrefused : (wearySetup.extractor.run s₁.asked {}).2 = .error (.refused "no more") := by
    rw [hasked₁]
    rfl
  have hsecond := @exec_createApplication_of_refusal wearySetup analystDay _ _ s₁ none {} _
    (get?_firstStore hvacancies) hrefused
  rw [decideEntries]
  dsimp only [Option.filter]
  rw [exec_bind_ok hfirst, exec_bind_ok (exec_checkReducible_of_eq_none rfl _), decideEntries]
  exact ⟨_, exec_bind_error (exec_bind_error hsecond _) _⟩

theorem runBatch_halts_twin :
    twinBatch.Holds .empty
      ∧ ∃ s', exec (runBatch wearySetup analystDay analystPaths) twinBatch
          = (.error (.extraction (.refused "no more")), s')
        ∧ Halts wearySetup analystDay analystPaths .empty twinBatch
          (.extraction (.refused "no more")) s'
        ∧ s'.files.fileAt ["output.json"] = none := by
  obtain ⟨content, hcontent, hread⟩ := loads_twin
  obtain ⟨events, hregister⟩ := exec_registerFile_first (s := twinBatch) rfl rfl rfl
  obtain ⟨loaded, hload, others, rfl⟩ := exec_loadApplications_of_read
    (s := { twinBatch with store := firstStore, ids := ⟨[], 2⟩, events }) hcontent hread
  obtain ⟨s', hdecide⟩ := exec_decideEntries_twin
    (s := { twinBatch with store := firstStore, ids := ⟨[], 2⟩, events := others })
    (fun _ _ h => by cases h) rfl rfl rfl
  have hruns : exec (runBatch wearySetup analystDay analystPaths) twinBatch
      = (.error (.extraction (.refused "no more")), s') := by
    rw [runBatch, exec_bind_ok hregister, exec_bind_ok hload]
    exact exec_bind_error hdecide _
  have hl : twinBatch.Holds .empty := Session.holds_inMemory twinBatch
  have hspares : twinBatch.audit.Spares twinBatch.files analystPaths.output := by
    rintro p ⟨⟩
  obtain ⟨hhalts, houtput⟩ := runBatch_halts hl hruns
  exact ⟨hl, s', hruns, hhalts, houtput hspares⟩

end Shortlist.Pipeline
