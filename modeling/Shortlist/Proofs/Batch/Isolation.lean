import Shortlist.Proofs.Batch.Entries
import Shortlist.Proofs.Pipeline.Transparency

/-!
# One line and the others

The lines of a file of applications stand for different applicants, and none of them should be able
to stop the batch or to change what is decided on another one.  The second is so: the result of a
line is the one that it has in a batch over a file which holds it alone (`Pipeline.IsResultAlone`).
The first is so for a line that is harmless (`Pipeline.IsHarmless`), and for no other one: a batch
comes back exactly if every line is harmless (`Pipeline.runBatch_isolates`), unless something
escapes from its audit trail, and whether it does is not up to the lines of a contained trail.

A line does harm in four ways: its JSON text has an integer that is too long or values that are too
deep; a requirement cannot be judged by its facts; its facts are too deep for a record; or there is
a surrogate in what is shown of it.  A line that can be read and is decided on is in one of the last
three ways harmful or harmless (`Pipeline.isHarmless_iff`).
-/

namespace Shortlist

open ApplicationsFile (lines validLines IsReadable)
open Shortlist.Action (exec exec_bind_ok exec_bind_eq_error)

/-! ## The files and the ids of a batch -/

/-- Files that hold what a batch needs: a document that reads as the draft, the content, which
encodes a text, and room for the output. -/
structure Tree.HoldsBatch (files : Tree) (paths : BatchPaths) (draft : VacancyDraft)
    (content : Text.Bytes) : Prop where
  vacancy : ∃ bytes document, files.read paths.vacancy = .ok bytes
    ∧ readVacancyFile bytes = .ok document ∧ VacancyDraft.read document = .accepted draft
  applications : files.read paths.applications = .ok content
  decodes : (Text.decodeUtf8 content).fault = none
  output : files.Accommodates paths.output

/-- The store is in memory, and the next id of a vacancy and so many ids of applications after it
are new. -/
def Session.DrawsNewIds (s : Session) (n : Nat) : Prop :=
  ∃ l, s.Holds l ∧ (∀ w ∈ l.vacancies, w.id ≠ (s.ids.fresh "vac").1)
    ∧ (s.ids.fresh "vac").2.IsFreshFor n l

lemma Session.DrawsNewIds.mono {s : Session} {n m : Nat} (h : s.DrawsNewIds n) (hm : m ≤ n) :
    s.DrawsNewIds m := by
  obtain ⟨l, hl, hnew, hfresh⟩ := h
  exact ⟨l, hl, hnew, hfresh.mono hm⟩

/-- Other files and another trail make no difference to the ids. -/
lemma Session.DrawsNewIds.with {s : Session} {n : Nat} (h : s.DrawsNewIds n) (files : Tree)
    (audit : AuditTrail) : Session.DrawsNewIds { s with files, audit } n := by
  obtain ⟨l, hl, hnew, hfresh⟩ := h
  exact ⟨l, hl.of_store_eq rfl, hnew, hfresh⟩

/-- The vacancy that is registered for a draft when it is the next one. -/
def Session.nextVacancy (s : Session) (now : Instant) (draft : VacancyDraft) : Vacancy :=
  draft.register (s.ids.fresh "vac").1 (Pipeline.timeText now)

namespace Pipeline

variable {setup : Setup} {now : Instant} {defaults : Facts} {paths : BatchPaths}
  {draft : VacancyDraft} {content : Text.Bytes} {file : ApplicationsFile} {v : Vacancy}
  {report : BatchReport} {fault : Fault} {s s' : Session} {n : Nat}

/-- The lines on which the batch of a vacancy decides: the valid ones that name no other vacancy. -/
def decidedLines (v : Vacancy) (content : Text.Bytes) : List ValidLine :=
  (validLines (lines content)).filter (·.joins v.id)

/-! ## Before the decisions -/

/-- A vacancy whose document reads as a draft is registered, and the session is ready for
entries. -/
lemma exists_exec_registerFile_of_draft (now : Instant)
    (hvacancy : ∃ bytes document, s.files.read paths.vacancy = .ok bytes
      ∧ readVacancyFile bytes = .ok document ∧ VacancyDraft.read document = .accepted draft)
    (houtput : s.files.Accommodates paths.output) (hids : s.DrawsNewIds n) :
    ∃ s', exec (registerFile now paths.vacancy) s = (.ok (s.nextVacancy now draft), s')
      ∧ s'.IsReady (s.nextVacancy now draft) paths.output n ∧ s'.files = s.files := by
  obtain ⟨bytes, document, hbytes, hdocument, hdraft⟩ := hvacancy
  obtain ⟨l, hl, hnew, hfresh⟩ := hids
  have hnew : ∀ w ∈ l.vacancies, w.id ≠ (s.nextVacancy now draft).id := hnew
  obtain ⟨vacancies, hinsert⟩ := hl.exists_insert_vacancy hnew
  obtain ⟨-, -, hheld⟩ := hl.of_insert_vacancy hinsert
  have hfind : (l.vacancies ++ [s.nextVacancy now draft]).find?
      (fun w => w.id = (s.nextVacancy now draft).id) = some (s.nextVacancy now draft) := by
    rw [List.find?_append, List.find?_eq_none.2 (by simpa using hnew)]
    simp
  obtain ⟨events, hcreate⟩ := exec_createVacancy_of_insert now hdraft hinsert
  rw [exec_registerFile_of_read hbytes hdocument]
  exact ⟨_, hcreate, ⟨⟨_, hheld _ rfl, hfind, hfresh⟩, houtput⟩, rfl⟩

/-- The vacancy of a batch is registered, and the session is ready for the entries. -/
lemma exists_exec_registerFile (now : Instant) (hbatch : s.files.HoldsBatch paths draft content)
    (hids : s.DrawsNewIds n) :
    ∃ s', exec (registerFile now paths.vacancy) s = (.ok (s.nextVacancy now draft), s')
      ∧ s'.IsReady (s.nextVacancy now draft) paths.output n ∧ s'.files = s.files :=
  exists_exec_registerFile_of_draft now hbatch.vacancy hbatch.output hids

/-! ## Batches that come back -/

/-- These are the results of a batch: its lines can be read, each line that it decides on has its
result, and the results and their number can be shown. -/
structure IsOutcome (setup : Setup) (now : Instant) (defaults : Facts) (v : Vacancy)
    (content : Text.Bytes) (results : List Application) : Prop where
  readable : ∀ line ∈ lines content, IsReadable line.2
  forall₂ : List.Forall₂ (fun l a => IsResult setup now defaults v l.entry a ∧ a.IsShowable)
    (decidedLines v content) results
  count : digitCount results.length ≤ integerDigitLimit

/-- A batch that comes back has its results. -/
lemma isOutcome_of_runBatch (hsetup : setup.IsStandard defaults)
    (hbatch : s.files.HoldsBatch paths draft content)
    (hids : s.DrawsNewIds (decidedLines (s.nextVacancy now draft) content).length)
    (h : exec (runBatch setup now paths) s = (.ok report, s')) :
    IsOutcome setup now defaults (s.nextVacancy now draft) content report.results := by
  obtain ⟨registered, hregister, hready, hfiles⟩ := exists_exec_registerFile now hbatch hids
  obtain ⟨course⟩ := nonempty_course h
  obtain ⟨bytes, hbytes, hdocument⟩ := course.reads_document
  -- the course is the one of this vacancy and this content
  have hregisters := course.registers
  rw [← exec_registerFile_of_read hbytes hdocument, hregister] at hregisters
  obtain ⟨hregistered, rfl⟩ := Prod.mk.inj hregisters
  have hvacancy : s.nextVacancy now draft = course.vacancy := Except.ok.inj hregistered
  have hcontent := course.reads_content
  rw [hfiles, hbatch.applications] at hcontent
  cases hcontent
  obtain ⟨-, hcontents⟩ := ApplicationsFile.read_ok course.reads_file
  have hdecides := course.decides
  rw [ApplicationsFile.entries_of_readContents hcontents, ← hvacancy] at hdecides
  obtain ⟨hresults, hleft⟩ :=
    hdecides.forall₂_isResult (n := 0) hsetup (hready.of_matches course.loads)
  have hid : report.vacancyId = (s.ids.fresh "vac").1 := by
    rw [course.vacancyId, ← hvacancy]
    rfl
  have hwritten := (exists_exec_writeOutput_iff hleft.output).1 ⟨_, course.writes⟩
  obtain ⟨hcount, hshowable⟩ :=
    (BatchReport.exists_document_iff hid course.finishedAt hdecides.reducible).1 hwritten
  exact ⟨(ApplicationsFile.exists_read_iff hbatch.decodes).1 ⟨_, course.reads_file⟩,
    List.forall₂_and_right.2 ⟨hresults, hshowable⟩, hcount⟩

/-- If there are results for a batch, it comes back unless something escapes from the audit
trail. -/
lemma isEscape_of_runBatch {results : List Application} (hsetup : setup.IsStandard defaults)
    (hbatch : s.files.HoldsBatch paths draft content)
    (hids : s.DrawsNewIds (decidedLines (s.nextVacancy now draft) content).length)
    (houtcome : IsOutcome setup now defaults (s.nextVacancy now draft) content results)
    (h : exec (runBatch setup now paths) s = (.error fault, s')) : fault.IsEscape := by
  obtain ⟨registered, hregister, hready, hfiles⟩ := exists_exec_registerFile now hbatch hids
  obtain ⟨file, hfile⟩ := (ApplicationsFile.exists_read_iff hbatch.decodes).2 houtcome.readable
  have hcontent : registered.files.read paths.applications = .ok content := by
    rw [hfiles, hbatch.applications]
  obtain ⟨loaded, hload, hloads⟩ := exec_loadApplications_of_read hcontent hfile
  have hready₁ := hready.of_matches hloads
  -- each line has a result, and whatever its result is can be shown
  have hlines := List.exists_forall₂_iff.1 ⟨_, houtcome.forall₂⟩
  have hshowable : ∀ l ∈ decidedLines (s.nextVacancy now draft) content, ∀ a,
      IsResult setup now defaults (s.nextVacancy now draft) l.entry a → a.IsShowable := by
    intro l hl a ha
    obtain ⟨b, hb, hshown⟩ := hlines l hl
    exact hb.isShowable ha hshown
  have hentries : file.entries = (validLines (lines content)).map (·.entry) :=
    ApplicationsFile.entries_of_readContents (ApplicationsFile.read_ok hfile).2
  rw [runBatch, exec_bind_ok hregister, exec_bind_ok hload] at h
  rcases exec_bind_eq_error.1 h with hbroke | ⟨⟨results', mismatches⟩, decided, hdecide, hrest⟩
  · rw [hentries] at hbroke
    exact isEscape_of_decideEntries hsetup hready₁ (fun l hl => (hlines l hl).imp fun a ha => ha.1)
      (fun l hl a ha => (hshowable l hl a ha).reducible) hbroke
  · -- what has been decided can be written
    rw [hentries] at hdecide
    obtain ⟨hresults, hleft⟩ :=
      (decides_of_exec hdecide).forall₂_isResult (n := 0) hsetup hready₁
    obtain ⟨-, hshown⟩ := List.forall₂_and_right.1
      (hresults.imp_of_mem fun l hl a ha => ⟨ha, hshowable l hl a ha⟩)
    have hlength : results'.length = results.length :=
      hresults.length_eq.symm.trans houtcome.forall₂.length_eq
    have hcount : digitCount results'.length ≤ integerDigitLimit := hlength ▸ houtcome.count
    obtain ⟨s₁, hwrite⟩ := (exists_exec_writeOutput_iff hleft.output (v := BatchReport.toValue
        ⟨(s.nextVacancy now draft).id, results', file.errors.map .line ++ mismatches,
          timeText now⟩)).2
      ((BatchReport.exists_document_iff rfl rfl fun a ha => (hshown a ha).reducible).2
        ⟨hcount, hshown⟩)
    dsimp only at hrest
    rw [exec_bind_ok hwrite] at hrest
    cases hrest

/-- With a contained trail nothing escapes from a batch. -/
lemma not_isEscape_of_runBatch (hcontained : s.audit.IsContained)
    (h : exec (runBatch setup now paths) s = (.error fault, s')) : ¬fault.IsEscape :=
  ((isRespected_isContained setup now).runBatch (Errand.isWithin_everything (.runBatch paths)) s s
    ⟨rfl, hcontained⟩).stands fault (by rw [h])

/-- If there are results for a batch, it comes back with a contained trail. -/
lemma exists_exec_runBatch {results : List Application} (hsetup : setup.IsStandard defaults)
    (hbatch : s.files.HoldsBatch paths draft content) (hcontained : s.audit.IsContained)
    (hids : s.DrawsNewIds (decidedLines (s.nextVacancy now draft) content).length)
    (houtcome : IsOutcome setup now defaults (s.nextVacancy now draft) content results) :
    ∃ report s', exec (runBatch setup now paths) s = (.ok report, s') := by
  rcases h : exec (runBatch setup now paths) s with ⟨fault | report, s'⟩
  · exact absurd (isEscape_of_runBatch hsetup hbatch hids houtcome h)
      (not_isEscape_of_runBatch hcontained h)
  · exact ⟨report, s', rfl⟩

/-! ## Lines that do no harm -/

lemma mem_decidedLines {l : ValidLine} :
    l ∈ decidedLines v content
      ↔ ∃ line ∈ lines content, ValidLine.ofContent? line.2 = some l ∧ l.joins v.id = true := by
  simp only [decidedLines, validLines, List.mem_filter, List.mem_filterMap]
  tauto

/-- A line that does not stop the batch of a vacancy: the reader gets through it, and if it is one
of those that are decided on, every requirement can be judged by its facts and its result can be
shown.  What this says of the facts and texts of such a line is in `isHarmless_iff`. -/
structure IsHarmless (setup : Setup) (now : Instant) (defaults : Facts) (v : Vacancy)
    (chars : List Char) : Prop where
  readable : IsReadable chars
  judgeable : ∀ l, ValidLine.ofContent? chars = some l → l.joins v.id = true →
    ∀ r ∈ v.requirements, r.CanJudge now ((l.entry.factsOr defaults).get r.field)
  showable : ∀ l, ValidLine.ofContent? chars = some l → l.joins v.id = true →
    ∀ a, IsResult setup now defaults v l.entry a → a.IsShowable

/-- A line that is reported as a bad one does no harm. -/
lemma isHarmless_of_invalid {chars : List Char} (hreadable : IsReadable chars)
    (hinvalid : ValidLine.ofContent? chars = none) : IsHarmless setup now defaults v chars where
  readable := hreadable
  judgeable l hl := by cases hinvalid.symm.trans hl
  showable l hl := by cases hinvalid.symm.trans hl

/-- A line is decided on by facts that JSON can say if the defaults are such facts. -/
lemma isDecoded_factsOr (hdefaults : defaults.IsDecoded) {chars : List Char} {l : ValidLine}
    (hvalid : ValidLine.ofContent? chars = some l) : (l.entry.factsOr defaults).IsDecoded := by
  rw [BatchEntry.factsOr]
  cases hfacts : l.entry.documents.facts with
  | none => exact hdefaults
  | some facts => exact ValidLine.hasDecodedFacts hvalid facts hfacts

lemma IsResult.hasDecodedFacts {entry : BatchEntry} {a : Application}
    (ha : IsResult setup now defaults v entry a) (hfacts : (entry.factsOr defaults).IsDecoded) :
    a.documents.HasDecodedFacts := by
  obtain ⟨id, decision, feedback, -, -, rfl⟩ := ha
  rintro _ ⟨⟩
  exact hfacts

/-- A valid line that is decided on does no harm exactly if every requirement can be judged by its
facts, none of these is too deep, and there is no surrogate in its result. -/
theorem isHarmless_iff {chars : List Char} {l : ValidLine} (hsetup : setup.IsStandard defaults)
    (hdefaults : defaults.IsDecoded) (hvalid : ValidLine.ofContent? chars = some l)
    (hjoins : l.joins v.id = true) :
    IsHarmless setup now defaults v chars
      ↔ (∀ r ∈ v.requirements, r.CanJudge now ((l.entry.factsOr defaults).get r.field))
        ∧ (l.entry.factsOr defaults).IsShallow
        ∧ ∀ a, IsResult setup now defaults v l.entry a → a.toValue.IsEncodable := by
  -- whether a result can be shown does not depend on the id that it has
  have hshowable {a : Application} (ha : IsResult setup now defaults v l.entry a) :
      a.IsShowable ↔ (l.entry.factsOr defaults).IsShallow ∧ a.toValue.IsEncodable := by
    have hdecoded := ha.hasDecodedFacts (isDecoded_factsOr hdefaults hvalid)
    obtain ⟨id, decision, feedback, -, -, rfl⟩ := ha
    exact Application.isShowable_iff hdecoded
  constructor
  · intro h
    have hjudgeable := h.judgeable l hvalid hjoins
    obtain ⟨a, ha⟩ := (exists_isResult_iff hsetup).2 hjudgeable
    have hresult := fun a ha => (hshowable ha).1 (h.showable l hvalid hjoins a ha)
    exact ⟨hjudgeable, (hresult a ha).1, fun a ha => (hresult a ha).2⟩
  · rintro ⟨hjudgeable, hshallow, hencodable⟩
    refine ⟨ApplicationsFile.isReadable_of_valid hvalid, fun l' hl' _ => ?_,
      fun l' hl' _ a ha => ?_⟩
    · cases hvalid.symm.trans hl'
      exact hjudgeable
    · cases hvalid.symm.trans hl'
      exact (hshowable ha).2 ⟨hshallow, hencodable a ha⟩

/-- There are results for a batch exactly if each of its lines is harmless and the number of the
results can be written. -/
lemma exists_isOutcome_iff (hsetup : setup.IsStandard defaults) :
    (∃ results, IsOutcome setup now defaults v content results)
      ↔ (∀ line ∈ lines content, IsHarmless setup now defaults v line.2)
        ∧ digitCount (decidedLines v content).length ≤ integerDigitLimit := by
  constructor
  · rintro ⟨results, h⟩
    -- line by line: there is a result that can be shown exactly if the line does no harm
    have hlines := List.exists_forall₂_iff.1 ⟨results, h.forall₂⟩
    have hdecided : ∀ line ∈ lines content, ∀ l, ValidLine.ofContent? line.2 = some l →
        l.joins v.id = true → _ := fun line hline l hl hjoins =>
      (exists_isShowable_iff hsetup).1 (hlines l (mem_decidedLines.2 ⟨line, hline, hl, hjoins⟩))
    refine ⟨fun line hline => ⟨h.readable line hline, ?_, ?_⟩, ?_⟩
    · exact fun l hl hjoins => (hdecided line hline l hl hjoins).1
    · exact fun l hl hjoins => (hdecided line hline l hl hjoins).2
    · rw [h.forall₂.length_eq]
      exact h.count
  · rintro ⟨hharmless, hcount⟩
    obtain ⟨results, hresults⟩ : ∃ results, List.Forall₂
        (fun (l : ValidLine) a => IsResult setup now defaults v l.entry a ∧ a.IsShowable)
        (decidedLines v content) results := by
      refine List.exists_forall₂_iff.2 fun l hl => ?_
      obtain ⟨line, hline, hvalid, hjoins⟩ := mem_decidedLines.1 hl
      have h := hharmless line hline
      exact (exists_isShowable_iff hsetup).2
        ⟨h.judgeable l hvalid hjoins, h.showable l hvalid hjoins⟩
    exact ⟨results, fun line hline => (hharmless line hline).readable, hresults,
      hresults.length_eq ▸ hcount⟩

/-! ## A line alone -/

/-- In each batch of the draft over a file that holds the line alone, with a contained trail, the
result is the application, its id aside. -/
def IsResultAlone (setup : Setup) (now : Instant) (s : Session) (draft : VacancyDraft)
    (l : ValidLine) (a : Application) : Prop :=
  ∀ (files : Tree) (audit : AuditTrail) (paths : BatchPaths) (content : Text.Bytes) (number : Nat)
    (chars : List Char), audit.IsContained → files.HoldsBatch paths draft content →
    lines content = [(number, chars)] → ValidLine.ofContent? chars = some l →
      ∃ report s' id, exec (runBatch setup now paths) { s with files, audit } = (.ok report, s')
        ∧ report.results = [{ a with id }]

/-- A result that can be shown is the one of its line alone. -/
lemma IsResult.isResultAlone {l : ValidLine} {a : Application}
    (ha : IsResult setup now defaults (s.nextVacancy now draft) l.entry a) (hshown : a.IsShowable)
    (hsetup : setup.IsStandard defaults) (hids : s.DrawsNewIds 1)
    (hjoins : l.joins (s.nextVacancy now draft).id = true) :
    IsResultAlone setup now s draft l a := by
  intro files audit paths content number chars hcontained hbatch hlines hvalid
  have hdecided : decidedLines (s.nextVacancy now draft) content = [l] := by
    simp [decidedLines, validLines, hlines, hvalid, hjoins]
  have hreadable : ∀ line ∈ lines content, IsReadable line.2 := by
    rw [hlines]
    simpa using ApplicationsFile.isReadable_of_valid hvalid
  -- the result is an outcome of the file with the one line, so the batch over it comes back
  have houtcome : IsOutcome setup now defaults (s.nextVacancy now draft) content [a] :=
    ⟨hreadable, hdecided ▸ .cons ⟨ha, hshown⟩ .nil, show digitCount 1 ≤ _ by decide⟩
  have hids' : Session.DrawsNewIds { s with files, audit }
      (decidedLines (s.nextVacancy now draft) content).length := by
    rw [hdecided]
    exact hids.with files audit
  obtain ⟨report, s', h⟩ := exists_exec_runBatch (s := { s with files, audit }) hsetup hbatch
    hcontained hids' houtcome
  have hresults :=
    (isOutcome_of_runBatch (s := { s with files, audit }) hsetup hbatch hids' h).forall₂
  have hdecided' : decidedLines (Session.nextVacancy { s with files, audit } now draft) content
      = [l] := hdecided
  rw [hdecided', List.forall₂_cons_left_iff] at hresults
  obtain ⟨b, rest, ⟨hb, -⟩, hrest, hreport⟩ := hresults
  obtain rfl := List.forall₂_nil_left_iff.1 hrest
  obtain ⟨id, rfl⟩ := ha.eq_withId hb
  exact ⟨report, s', id, h, hreport⟩

/-- A batch breaks off with something that escapes from its audit trail. -/
def LetsEscape (setup : Setup) (now : Instant) (paths : BatchPaths) (s : Session) : Prop :=
  ∃ fault s', exec (runBatch setup now paths) s = (.error fault, s') ∧ fault.IsEscape

/-- A batch comes back exactly if none of its lines does harm, the number of its results can be
written, and nothing escapes from its audit trail, as nothing does from a contained one.  It then
has decided on each valid line that names no other vacancy, in order, and the result is the one of
the line alone: whatever the other lines say, it has the same status, the same feedback and the same
facts. -/
theorem runBatch_isolates (hsetup : setup.IsStandard defaults)
    (hbatch : s.files.HoldsBatch paths draft content)
    (hids : s.DrawsNewIds (lines content).length) :
    ((∃ report s', exec (runBatch setup now paths) s = (.ok report, s'))
        ↔ (∀ line ∈ lines content,
            IsHarmless setup now defaults (s.nextVacancy now draft) line.2)
          ∧ digitCount (decidedLines (s.nextVacancy now draft) content).length ≤ integerDigitLimit
          ∧ ¬LetsEscape setup now paths s)
      ∧ (s.audit.IsContained → ¬LetsEscape setup now paths s)
      ∧ ∀ report s', exec (runBatch setup now paths) s = (.ok report, s') →
        List.Forall₂
          (fun l a => IsResult setup now defaults (s.nextVacancy now draft) l.entry a
            ∧ IsResultAlone setup now s draft l a)
          (decidedLines (s.nextVacancy now draft) content) report.results := by
  have hlength : (decidedLines (s.nextVacancy now draft) content).length
      ≤ (lines content).length :=
    (List.length_filter_le _ _).trans (List.length_filterMap_le _ _)
  have hdecidedIds := hids.mono hlength
  refine ⟨⟨?_, ?_⟩, ?_, ?_⟩
  · rintro ⟨report, s', h⟩
    obtain ⟨hharmless, hcount⟩ :=
      (exists_isOutcome_iff hsetup).1 ⟨_, isOutcome_of_runBatch hsetup hbatch hdecidedIds h⟩
    refine ⟨hharmless, hcount, ?_⟩
    rintro ⟨fault, s₁, hbroke, -⟩
    cases h.symm.trans hbroke
  -- there are results, so whatever breaks the batch off has escaped from the trail
  · rintro ⟨hharmless, hcount, hkept⟩
    obtain ⟨results, houtcome⟩ := (exists_isOutcome_iff hsetup).2 ⟨hharmless, hcount⟩
    rcases h : exec (runBatch setup now paths) s with ⟨fault | report, s'⟩
    · exact absurd ⟨fault, s', h, isEscape_of_runBatch hsetup hbatch hdecidedIds houtcome h⟩ hkept
    · exact ⟨report, s', rfl⟩
  · rintro hcontained ⟨fault, s', h, hescape⟩
    exact not_isEscape_of_runBatch hcontained h hescape
  · intro report s' h
    have houtcome := isOutcome_of_runBatch hsetup hbatch hdecidedIds h
    refine houtcome.forall₂.imp_of_mem fun l hl a ⟨ha, hshown⟩ => ⟨ha, ?_⟩
    obtain ⟨-, -, -, hjoins⟩ := mem_decidedLines.1 hl
    have hone : s.DrawsNewIds 1 := hdecidedIds.mono (List.length_pos_of_mem hl)
    exact ha.isResultAlone hshown hsetup hone hjoins

/-- A file with an application that says nothing, and a line that is no object. -/
def pairLines : Text.Bytes := Text.encodeUtf8 ['\x7b', '\x7d', '\n', '[', ']']

/-- A session with this file in which nothing has been registered yet. -/
def pairBatch : Session where
  files := ⟨[], [(["vacancy.json"], .file analystFile), (["applications.jsonl"], .file pairLines)]⟩
  store := .inMemory

lemma lines_pairLines : lines pairLines = [(1, ['\x7b', '\x7d']), (2, ['[', ']'])] := by
  rw [lines, pairLines, Text.decodeUtf8_encodeUtf8]
  rfl

lemma holdsBatch_pair : pairBatch.files.HoldsBatch analystPaths analystDraft pairLines where
  vacancy := ⟨analystFile, analystDraft.toValue, rfl, readVacancyFile_analyst, rfl⟩
  applications := rfl
  decodes := by rw [pairLines, Text.decodeUtf8_encodeUtf8]
  output := ⟨⟨rfl, rfl, by decide⟩, [], rfl, rfl⟩

lemma drawsNewIds_pair : pairBatch.DrawsNewIds (lines pairLines).length := by
  have hfresh : (pairBatch.ids.fresh "vac").2.IsFreshFor 2 .empty := by
    rw [IdSource.IsFreshFor]
    decide +kernel
  rw [lines_pairLines]
  exact ⟨.empty, Session.holds_inMemory pairBatch, by simp [Ledger.empty], hfresh⟩

/-- An application that says nothing does no harm if one with the defaults can be shown. -/
lemma isHarmless_of_isShowable
    (hshown : (acceptance analystDay "" none (pairBatch.nextVacancy analystDay analystDraft) {}
      defaults).IsShowable) :
    IsHarmless setup analystDay defaults (pairBatch.nextVacancy analystDay analystDraft)
      ['\x7b', '\x7d'] := by
  have hvalid :
      ∃ hreads, ValidLine.ofContent? ['\x7b', '\x7d'] = some ⟨[], ⟨none, none, {}⟩, hreads⟩ :=
    ⟨rfl, rfl⟩
  obtain ⟨hreads, hvalid⟩ := hvalid
  refine ⟨ApplicationsFile.isReadable_of_valid hvalid, fun l hl hjoins r hr => ?_,
    fun l hl hjoins a ha => ?_⟩
  · cases hr
  · cases hvalid.symm.trans hl
    obtain ⟨id, decision, feedback, hdecision, hfeedback, rfl⟩ := ha
    cases hdecision
    cases hfeedback
    exact hshown.withId id

lemma isHarmless_empty :
    IsHarmless analystSetup analystDay .none (pairBatch.nextVacancy analystDay analystDraft)
      ['\x7b', '\x7d'] :=
  isHarmless_of_isShowable ⟨rfl, rfl, rfl⟩

theorem runBatch_isolates_pair :
    analystSetup.IsStandard .none ∧ pairBatch.files.HoldsBatch analystPaths analystDraft pairLines
      ∧ pairBatch.DrawsNewIds (lines pairLines).length
      ∧ ∃ report s', exec (runBatch analystSetup analystDay analystPaths) pairBatch
        = (.ok report, s')
        ∧ report.results.length = 1 := by
  have hsetup : analystSetup.IsStandard .none := ⟨rfl, by simp [analystSetup], rfl⟩
  have hdecided :
      (decidedLines (pairBatch.nextVacancy analystDay analystDraft) pairLines).length = 1 := by
    rw [decidedLines, lines_pairLines]
    rfl
  have hbad : IsHarmless analystSetup analystDay .none
      (pairBatch.nextVacancy analystDay analystDraft) ['[', ']'] :=
    isHarmless_of_invalid ⟨⟨[], [⟨1, .notObject⟩]⟩, rfl⟩ rfl
  have hharmless : ∀ line ∈ lines pairLines, IsHarmless analystSetup analystDay .none
      (pairBatch.nextVacancy analystDay analystDraft) line.2 := by
    rw [lines_pairLines]
    simpa using ⟨isHarmless_empty, hbad⟩
  obtain ⟨hreturns, hkept, hresults⟩ := runBatch_isolates hsetup holdsBatch_pair
    (s := pairBatch) drawsNewIds_pair
  obtain ⟨report, s', h⟩ :=
    hreturns.2 ⟨hharmless, hdecided ▸ by decide, hkept AuditTrail.isContained_off⟩
  refine ⟨hsetup, holdsBatch_pair, drawsNewIds_pair, report, s', h, ?_⟩
  rw [← (hresults report s' h).length_eq, hdecided]

end Pipeline

end Shortlist
