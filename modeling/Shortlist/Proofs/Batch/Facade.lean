import Shortlist.Proofs.Batch.Lines
import Shortlist.Proofs.Batch.Run

/-!
# Batches and single submissions

A batch decides as if its vacancy had been registered and its lines had been handed in one by one
(`Pipeline.screen`): the results are the same, and so is everything that the pipeline keeps
(`runBatch_decides_alike`).  The two go different ways.  A line of a batch is read as an entry,
which need not name its vacancy, and a document that is handed in is read as a submission, which
must; and between the decisions a batch reports what it has to leave out.

The second way is followed beside the first one, a line at a time.  The two sessions match: they
differ in what has been reported and in nothing else (`Session.Matches`), and no decision depends on
that.  So the same ids are drawn on both sides, and the results are not only alike but the same.

After that a batch writes its output, and this touches nothing but the places along the path of the
output.  A collection is clear of it if it is in memory, or in a file elsewhere
(`Collection.IsClearOf`).
-/

namespace Shortlist

/-! ## Collections and the output -/

namespace Collection

variable {α : Type} {c : Collection α} {files files' : Tree} {p : Path}

/-- A collection in memory, or in a file whose path leads to a place that is not along another
path. -/
def IsClearOf (c : Collection α) (files : Tree) (p : Path) : Prop :=
  ∀ q, c.path? = some q → ∃ place, files.placeOf q = .ok place ∧ ¬files.IsOn p place

/-- A collection that is clear of a path is not affected by what is done along it. -/
lemma IsClearOf.toList [Record α] (h : c.IsClearOf files p) (hfiles : Tree.SameOff p files files') :
    c.toList files' = c.toList files := by
  cases c with
  | memory m => rfl
  | file q =>
    obtain ⟨place, hplace, hoff⟩ := h q rfl
    have hread := hfiles.readIfThere hplace hoff
    rw [Collection.toList, Collection.toList, RecordFile.load, RecordFile.load, hread]

end Collection

/-- No id is empty. -/
lemma IdSource.exists_filledText (ids : IdSource) (word : String) :
    ∃ id : FilledText, id.text = (ids.fresh word).1 := by
  refine ⟨⟨(ids.fresh word).1, ?_⟩, rfl⟩
  intro hempty
  have hlength := congrArg String.length hempty
  simp [fresh, identifier, String.length_append] at hlength

/-- The documents that hand in the lines of a file of applications to a vacancy: one for each line
that is valid and names no other vacancy. -/
def ApplicationsFile.requests (vacancyId : Text) (content : Text.Bytes) : List Value :=
  ((validLines (lines content)).filter (·.joins vacancyId)).map (·.request vacancyId)

namespace Pipeline

open Session
open Shortlist.Action (exec exec_bind_ok)

variable {setup : Setup} {now : Instant} {paths : BatchPaths} {number : Nat}
  {results : List Application} {mismatches : List BatchError} {report : BatchReport}
  {s s' t : Session}

/-- Registers a vacancy document, and hands in the lines of a file of applications to the
vacancy. -/
def screen (setup : Setup) (now : Instant) (document : Value) (content : Text.Bytes) :
    Action (Vacancy × List Application) := do
  let vacancy ← createVacancy now document
  let results ← (ApplicationsFile.requests vacancy.id content).mapM (submitDocument setup now)
  return (vacancy, results)

/-- A line that is handed in is decided on like its entry. -/
lemma submitDocument_request (l : ValidLine) (vacancyId : FilledText) :
    submitDocument setup now (l.request vacancyId.text)
      = createApplication setup now vacancyId.text l.entry.applicantId l.entry.documents := by
  rw [submitDocument, l.read_request]
  rfl

/-- The decisions on the entries of valid lines are those on the lines that are handed in. -/
lemma Decides.exec_requests {ls : List ValidLine} {vacancyId : FilledText}
    (h : Decides setup now vacancyId.text number (ls.map (·.entry)) s results mismatches s')
    (ht : s.Matches t) :
    ∃ t', exec (((ls.filter (·.joins vacancyId.text)).map (·.request vacancyId.text)).mapM
        (submitDocument setup now)) t = (.ok results, t') ∧ s'.Matches t' := by
  -- the second session runs beside the first one; only the events of the two may differ
  induction ls generalizing number s t results mismatches with
  | nil =>
    cases h with
    | nil => exact ⟨t, rfl, ht⟩
  | cons l rest ih =>
    cases h with
    | mismatch hother hne hreport hrest =>
      have hleft := ValidLine.not_joins_iff.2 ⟨_, hother, hne⟩
      rw [List.filter_cons, if_neg hleft]
      exact ih hrest (hreport.symm.trans ht)
    | application hjoins hcreate hreducible hrest =>
      have htaken : l.joins vacancyId.text = true := ValidLine.joins_iff.2 hjoins
      obtain ⟨t₁, hcreate', ht₁⟩ :=
        (ignoresEvents_createApplication _ _ _).exec_ok hcreate ht
      obtain ⟨t', hrequests, ht'⟩ := ih hrest ht₁
      refine ⟨t', ?_, ht'⟩
      rw [List.filter_cons, if_pos htaken, List.map_cons, List.mapM_cons, submitDocument_request,
        exec_bind_ok hcreate', exec_bind_ok hrequests]
      rfl

/-- The decisions of a batch are those on the lines of its file that are handed in. -/
lemma Course.exec_requests (course : Course setup now paths s report s') :
    ∃ last, exec ((ApplicationsFile.requests course.vacancy.id course.content).mapM
        (submitDocument setup now)) course.registered = (.ok report.results, last)
      ∧ course.decided.Matches last := by
  obtain ⟨hid, -⟩ := exec_createVacancy_ok course.registers
  obtain ⟨vacancyId, hfilled⟩ := s.ids.exists_filledText "vac"
  rw [← hfilled] at hid
  obtain ⟨-, hlines⟩ := ApplicationsFile.read_ok course.reads_file
  have hdecides := course.decides
  rw [ApplicationsFile.entries_of_readContents hlines, hid] at hdecides
  rw [hid]
  exact hdecides.exec_requests course.loads.symm

/-- A batch that comes back decides like the facade: its vacancy is the one that is registered for
the decoded document, its results are those of handing in, in the order of the lines, each line that
is valid and names no other vacancy, and the same is kept of both.  The batch also writes its
output; the collections are the same afterwards if they are clear of it. -/
theorem runBatch_decides_alike (h : exec (runBatch setup now paths) s = (.ok report, s')) :
    ∃ (bytes content : Text.Bytes) (document : Value) (vacancy : Vacancy)
      (registered last : Session),
      s.files.read paths.vacancy = .ok bytes ∧ readVacancyFile bytes = .ok document
      ∧ exec (createVacancy now document) s = (.ok vacancy, registered)
      ∧ registered.files.read paths.applications = .ok content
      ∧ exec (screen setup now document content) s = (.ok (vacancy, report.results), last)
      ∧ report.vacancyId = vacancy.id
      ∧ s'.store = last.store ∧ s'.ids = last.ids ∧ s'.asked = last.asked ∧ s'.audit = last.audit
      ∧ Tree.SameOff paths.output last.files s'.files
      ∧ (last.store.vacancies.IsClearOf last.files paths.output →
        s'.store.vacancies.toList s'.files = last.store.vacancies.toList last.files)
      ∧ (last.store.applications.IsClearOf last.files paths.output →
        s'.store.applications.toList s'.files = last.store.applications.toList last.files) := by
  obtain ⟨course⟩ := nonempty_course h
  obtain ⟨bytes, hbytes, hdocument⟩ := course.reads_document
  obtain ⟨last, hrequests, events, rfl⟩ := course.exec_requests
  obtain ⟨text, written, files, -, -, hfiles, -, hwritten⟩ := exec_writeOutput_ok course.writes
  have hscreen : exec (screen setup now course.document course.content) s
      = (.ok (course.vacancy, report.results), { course.decided with events }) := by
    rw [screen, exec_bind_ok course.registers, exec_bind_ok hrequests]
    rfl
  rw [hwritten]
  exact ⟨bytes, course.content, course.document, course.vacancy, course.registered, _, hbytes,
    hdocument, course.registers, course.reads_content, hscreen, course.vacancyId, rfl, rfl, rfl,
    rfl, hfiles, fun hclear => hclear.toList hfiles, fun hclear => hclear.toList hfiles⟩

/-- Of three lines one is handed in; the bad one and the one for another vacancy are not. -/
theorem runBatch_decides_alike_analyst :
    ∃ s' document content vacancy last,
      exec (runBatch analystSetup analystDay analystPaths) analystBatch = (.ok firstReport, s')
      ∧ exec (screen analystSetup analystDay document content) analystBatch
        = (.ok (vacancy, firstReport.results), last)
      ∧ firstReport.results.length = 1 ∧ firstReport.errors.length = 2
      ∧ s'.store = last.store := by
  obtain ⟨s', h⟩ := exists_runBatch_analyst
  obtain ⟨-, content, document, vacancy, -, last, -, -, -, -, hscreen, -, hstore, -⟩ :=
    runBatch_decides_alike h
  exact ⟨s', document, content, vacancy, last, h, hscreen, rfl, rfl, hstore⟩

end Pipeline

end Shortlist
