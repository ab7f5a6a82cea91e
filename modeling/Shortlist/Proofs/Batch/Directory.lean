import Shortlist.Proofs.Batch.Failure
import Shortlist.Proofs.Batch.Silence
import Shortlist.Proofs.Pipeline.Backends

/-!
# Batches over a directory

A batch over a directory ends like the one over a store in memory that its files mirror, as long as
every record has a line.  A vacancy without a line breaks it off silently.  A result without a line
would do so too; but a line that does no harm has none, so that nothing else has to be known for a
batch to come back (`Pipeline.returns_runBatch_inDirectory`).

The comparison goes step by step through the two batches (`AgreesUnless`): after each step either
both have come to the same thing and the files still mirror the store in memory, or the batch over
the directory has broken off, and then it is known over which kind of record.  The condition is
widened on the way, from one submission to the entries in front of it and to all lines, so that the
last step can compare it with what a batch over memory needs.

The file of applications must not be the one in which the store keeps its vacancies, as the vacancy
of the batch is stored there before the applications are read.
-/

namespace Shortlist

open ApplicationsFile (lines validLines)
open Shortlist.Action (exec exec_bind exec_bind_ok exec_bind_error exec_bind_eq_ok
  exec_bind_eq_error)

variable {α β : Type} {P : Prop} {directory : Path} {s t : Session}

/-- An action comes to the same thing over memory and over a directory, or else breaks off silently
over the directory, which takes a condition. -/
def AgreesUnless (P : Prop) (directory : Path) (s t : Session) (x : Action α) : Prop :=
  Agrees directory s t x ∨ P ∧ ∃ fault t', exec x t = (.error fault, t') ∧ fault.IsSilent

lemma AgreesUnless.bind {x : Action α} {f : α → Action β} (hx : AgreesUnless P directory s t x)
    (hf : ∀ a s' t', exec x s = (.ok a, s') → exec x t = (.ok a, t') → Reflects directory s' t' →
      AgreesUnless P directory s' t' (f a)) : AgreesUnless P directory s t (x >>= f) := by
  rcases hx with ⟨houtcome, hreflects⟩ | ⟨hP, fault, t', hfails, hsilent⟩
  · cases hs : exec x s with
    | mk outcome s' =>
      cases ht : exec x t with
      | mk outcome' t' =>
        rw [hs, ht] at houtcome hreflects
        obtain rfl : outcome' = outcome := houtcome
        cases outcome' with
        | error fault =>
          refine .inl ?_
          rw [Agrees, exec_bind_error hs, exec_bind_error ht]
          exact ⟨rfl, hreflects⟩
        | ok a =>
          rw [AgreesUnless, Agrees, exec_bind_ok hs, exec_bind_ok ht]
          exact hf a s' t' hs ht hreflects
  · exact .inr ⟨hP, fault, t', exec_bind_error hfails _, hsilent⟩

lemma AgreesUnless.mono {Q : Prop} {x : Action α} (h : AgreesUnless P directory s t x)
    (himp : P → Q) : AgreesUnless Q directory s t x :=
  h.imp_right (And.imp_left himp)

namespace Pipeline

open Session

variable {setup : Setup} {now : Instant} {defaults : Facts} {paths : BatchPaths}
  {draft : VacancyDraft} {content : Text.Bytes} {v : Vacancy} {output : Path} {number n : Nat}
  {entry : BatchEntry} {ls : List ValidLine}

/-! ## Single submissions -/

/-- An entry is decided on alike, unless its result has no line. -/
lemma agreesUnless_createApplication (h : Reflects directory s t)
    (hready : s.IsReady v output (n + 1)) (hsetup : setup.IsStandard defaults)
    (hdefaults : defaults.IsDecoded) (hdocuments : entry.documents.HasDecodedFacts) :
    AgreesUnless (∃ a, IsResult setup now defaults v entry a ∧ Record.lineFault? a ≠ none)
      directory s t
      (createApplication setup now v.id entry.applicantId entry.documents) := by
  have hstandard : setup.HasStandardExtractor := ⟨defaults, hsetup.extractor, hdefaults⟩
  have hrule : Agrees directory s t (rule setup now v.id entry.applicantId entry.documents) :=
    agrees_rule _ _ _ h
  rw [createApplication_eq]
  cases hs : exec (rule setup now v.id entry.applicantId entry.documents) s with
  | mk outcome s' =>
    cases outcome with
    | error fault => exact .inl (hrule.bind fun ruling hok => by cases hs.symm.trans hok)
    | ok ruling =>
      -- the ruling is the same on both sides, and only its record decides whether a file takes it
      by_cases hline : Record.lineFault? ruling.application = none
      · refine .inl (hrule.bind fun ruling' hruling h' => ?_)
        cases hs.symm.trans hruling
        exact agrees_settle h' hline (hasDecodedFacts_of_rule hstandard hdocuments hs)
      · refine .inr ⟨?_, ?_⟩
        · obtain ⟨w, hruling⟩ := isRuling_of_rule hs
          obtain ⟨_, hexists⟩ := hready.exists_isResult hsetup hruling
          obtain ⟨b, record, s₁, hcreate, hresult, -⟩ :=
            hready.exec_createApplication hsetup hexists
          rw [goOn_append h.isContained.1, createApplication_eq, exec_bind_ok hs] at hcreate
          obtain ⟨rfl, -⟩ := exec_settle_ok hcreate
          exact ⟨_, hresult, hline⟩
        · obtain ⟨fault, hfault⟩ := Option.ne_none_iff_exists'.1 hline
          rw [Agrees, hs] at hrule
          cases ht : exec (rule setup now v.id entry.applicantId entry.documents) t with
          | mk outcome t' =>
            rw [ht] at hrule
            obtain ⟨houtcome, vacancies, applications, h'⟩ := hrule
            obtain rfl : outcome = .ok ruling := houtcome
            refine ⟨.store (.noLine fault), t', ?_, rfl⟩
            rw [exec_bind_ok ht]
            refine exec_settle_of_error ?_
            rw [h'.store', Store.inDirectory]
            exact insert_file_of_lineFault hfault

/-! ## All entries -/

lemma agrees_checkReducible (a : Application) (h : Reflects directory s t) :
    Agrees directory s t (checkReducible a) := by
  rw [checkReducible]
  cases Record.dump? a with
  | ok _ => exact agrees_pure () h
  | error fault => exact agrees_throw _ h

/-- The entries are decided on alike, unless one of their results has no line. -/
lemma agreesUnless_decideEntries (h : Reflects directory s t) (hsetup : setup.IsStandard defaults)
    (hdefaults : defaults.IsDecoded) (hdocuments : ∀ l ∈ ls, l.entry.documents.HasDecodedFacts)
    (hready : s.IsReady v output (ls.filter (·.joins v.id)).length) :
    AgreesUnless
      (∃ l ∈ ls.filter (·.joins v.id), ∃ a,
        IsResult setup now defaults v l.entry a ∧ Record.lineFault? a ≠ none)
      directory s t (decideEntries setup now v.id number (ls.map (·.entry))) := by
  -- the two sessions stay reflections of each other up to the first result without a line
  induction ls generalizing number s t with
  | nil => exact .inl (agrees_pure _ h)
  | cons l rest ih =>
    rw [List.forall_mem_cons] at hdocuments
    rw [List.map_cons, decideEntries]
    by_cases hjoins : l.joins v.id = true
    · rw [List.filter_cons, if_pos hjoins] at hready ⊢
      rw [filter_eq_none_iff.2 (ValidLine.joins_iff.1 hjoins)]
      dsimp only
      refine AgreesUnless.bind
        ((agreesUnless_createApplication h hready hsetup hdefaults hdocuments.1).mono
          fun hresult => ⟨l, List.mem_cons_self, hresult⟩) fun a s₁ t₁ hs ht h₁ => ?_
      obtain ⟨-, hready₁⟩ := hready.isResult hsetup hs
      refine AgreesUnless.bind (.inl (agrees_checkReducible a h₁)) fun _ s₂ t₂ hs₂ ht₂ h₂ => ?_
      obtain ⟨-, rfl⟩ := exec_checkReducible_ok hs₂
      refine AgreesUnless.bind ((ih h₂ hdocuments.2 hready₁).mono ?_) fun _ _ _ _ _ h₃ =>
        .inl (agrees_pure _ h₃)
      rintro ⟨l', hl', hresult⟩
      exact ⟨l', List.mem_cons_of_mem _ hl', hresult⟩
    · rw [List.filter_cons, if_neg hjoins] at hready ⊢
      obtain ⟨other, hother, hne⟩ := ValidLine.not_joins_iff.1 hjoins
      have hfilter : l.entry.vacancyId.filter (· ≠ v.id) = some other :=
        Option.filter_eq_some_iff.2 ⟨hother, by simpa using hne⟩
      rw [hfilter]
      refine AgreesUnless.bind (.inl (agrees_report _ h)) fun _ s₁ t₁ hs ht h₁ => ?_
      rw [exec_report] at hs
      cases hs
      have hready₁ := hready.of_matches ⟨s.events ++ [.vacancyMismatch number other v.id], rfl⟩
      exact AgreesUnless.bind (ih h₁ hdocuments.2 hready₁) fun _ _ _ _ _ h₂ =>
        .inl (agrees_pure _ h₂)

/-! ## The vacancy -/

/-- A vacancy with a line is registered alike. -/
lemma agrees_registerFile (h : Reflects directory s t) (hfiles : s.files = t.files)
    (hinputs : HasInputs t paths draft content)
    (hline : Record.lineFault? (s.nextVacancy now draft) = none) :
    Agrees directory s t (registerFile now paths.vacancy) := by
  obtain ⟨bytes, document, hbytes, hdocument, hdraft⟩ := hinputs.vacancy
  have hlines : (Request.createVacancy document).HasLine {} now s := fun draft' hdraft' => by
    cases hdraft.symm.trans hdraft'
    exact hline
  rw [Agrees, exec_registerFile_of_read hbytes hdocument,
    exec_registerFile_of_read (hfiles ▸ hbytes) hdocument]
  exact agrees_createVacancy h hlines

/-- A vacancy without a line is not registered in a directory. -/
lemma exec_registerFile_of_lineFault (h : Reflects directory s t)
    (hinputs : HasInputs t paths draft content) {fault : Value.PlainFault}
    (hline : Record.lineFault? (s.nextVacancy now draft) = some fault) :
    ∃ t', exec (registerFile now paths.vacancy) t = (.error (.store (.noLine fault)), t') := by
  obtain ⟨bytes, document, hbytes, hdocument, hdraft⟩ := hinputs.vacancy
  obtain ⟨vacancies, applications, h⟩ := h
  have hvacancy :
      draft.register (t.ids.fresh "vac").1 (timeText now) = s.nextVacancy now draft := by
    rw [h.ids]
    rfl
  have hrefused : t.store.vacancies.insert t.files (s.nextVacancy now draft)
      = .error (.noLine fault) := by
    rw [h.store', Store.inDirectory]
    exact insert_file_of_lineFault hline
  rw [exec_registerFile_of_read hbytes hdocument, createVacancy, hdraft, ofCheck, pure_bind,
    registerVacancy, exec_bind_ok (exec_freshId _ _), exec_bind, exec_insertVacancy]
  dsimp only
  rw [hvacancy, hrefused]
  exact ⟨_, rfl⟩

/-- The vacancy that is registered leaves the file of applications as it is. -/
lemma read_applications_of_registerFile (h : Reflects directory s t)
    (hinputs : HasInputs t paths draft content)
    (hapart : t.files.resolve paths.applications
      ≠ t.files.resolve (directory.child Store.vacanciesName)) {t' : Session}
    (hregister : exec (registerFile now paths.vacancy) t = (.ok v, t')) :
    t'.files.read paths.applications = .ok content := by
  obtain ⟨document, -, hcreate⟩ := exec_registerFile_ok hregister
  obtain ⟨draft', vacancies, files, events, -, -, hinsert, rfl⟩ := exec_createVacancy_eq_ok hcreate
  obtain ⟨_, _, h⟩ := h
  rw [← Tree.readIfThere_eq_some, Collection.readIfThere_insert_ne hinsert]
  · exact Tree.readIfThere_eq_some.2 hinputs.applications
  · rintro p hp
    rw [h.store', Store.inDirectory] at hp
    cases hp
    exact hapart

/-! ## The decisions of a batch -/

/-- A file of applications is loaded alike from two files with the same content. -/
lemma agrees_loadApplications {p : Path} (h : Reflects directory s t)
    (hs : s.files.read p = .ok content) (ht : t.files.read p = .ok content) :
    Agrees directory s t (loadApplications p) := by
  have hread : Agrees directory s t (readFile p) := by
    rw [Agrees, exec_readFile, exec_readFile, hs, ht]
    exact ⟨rfl, h⟩
  refine hread.bind fun bytes _ h' => ?_
  cases ApplicationsFile.read bytes with
  | error fault => exact agrees_throw _ h'
  | ok file =>
    dsimp only
    split
    · exact (agrees_report _ h').bind fun _ _ h'' => agrees_pure _ h''
    · exact agrees_pure _ h'

/-- If its vacancy has a line, a batch decides alike, unless one of its results has no line. -/
lemma agreesUnless_decideBatch (h : Reflects directory s t) (hfiles : s.files = t.files)
    (hsetup : setup.IsStandard defaults) (hdefaults : defaults.IsDecoded)
    (hinputs : HasInputs t paths draft content) (hids : s.DrawsNewIds (lines content).length)
    (hapart : t.files.resolve paths.applications
      ≠ t.files.resolve (directory.child Store.vacanciesName))
    (hline : Record.lineFault? (s.nextVacancy now draft) = none) :
    AgreesUnless
      (∃ l ∈ decidedLines (s.nextVacancy now draft) content, ∃ a,
        IsResult setup now defaults (s.nextVacancy now draft) l.entry a
          ∧ Record.lineFault? a ≠ none)
      directory s t (decideBatch setup now paths) := by
  have hinputs' : HasInputs s paths draft content := by
    obtain ⟨hvacancy, happlications, houtput⟩ := hinputs
    exact ⟨hfiles ▸ hvacancy, hfiles ▸ happlications, hfiles ▸ houtput⟩
  obtain ⟨registered, hregister, hready, hregistered⟩ :=
    exists_exec_registerFile_of_draft now hinputs'.vacancy hinputs'.output hids
  refine AgreesUnless.bind (.inl (agrees_registerFile h hfiles hinputs hline))
    fun vacancy s₁ t₁ hs ht h₁ => ?_
  cases hregister.symm.trans hs
  -- the new vacancy goes to another file, so both sides load the same applications
  have happlications : registered.files.read paths.applications = .ok content := by
    rw [hregistered, hinputs'.applications]
  refine AgreesUnless.bind (.inl (agrees_loadApplications h₁ happlications
    (read_applications_of_registerFile h hinputs hapart ht))) fun file s₂ t₂ hs₂ ht₂ h₂ => ?_
  obtain ⟨-, hentries, hloads⟩ := exec_loadApplications_inputs hinputs' hregistered hs₂
  have hready₂ := (hready.of_matches hloads).mono
    (length_decidedLines_le (s.nextVacancy now draft) content)
  have hdocuments : ∀ l ∈ validLines (lines content), l.entry.documents.HasDecodedFacts := by
    intro l hl
    obtain ⟨line, -, hcontent⟩ := List.mem_filterMap.1 hl
    exact ValidLine.hasDecodedFacts hcontent
  rw [hentries]
  exact (agreesUnless_decideEntries h₂ hsetup hdefaults hdocuments hready₂).bind
    fun _ _ _ _ _ h₃ => .inl (agrees_pure _ h₃)

/-! ## How a batch ends -/

/-- What a line decides that does no harm has a line itself. -/
lemma lineFault?_of_isScreenable (hdefaults : defaults.IsDecoded)
    (h : IsScreenable setup now defaults v content) :
    ∀ l ∈ decidedLines v content, ∀ a, IsResult setup now defaults v l.entry a →
      Record.lineFault? a = none := by
  intro l hl a ha
  obtain ⟨line, hline, hvalid, hjoins⟩ := mem_decidedLines.1 hl
  have hshown := (h.harmless line hline).showable l hvalid hjoins a ha
  have hdecoded := ha.hasDecodedFacts (isDecoded_factsOr hdefaults hvalid)
  exact (Application.isDecoded_toValue hdecoded).isShowable_iff.1 hshown

/-- With room for its output a batch comes back exactly if its decisions do, and their report has a
document with bytes. -/
lemma exists_runBatch_iff_decideBatch (houtput : s.files.Accommodates paths.output) :
    (∃ report, (exec (runBatch setup now paths) s).1 = .ok report)
      ↔ ∃ report, (exec (decideBatch setup now paths) s).1 = .ok report
        ∧ ∃ text bytes, Json.document .page report.toValue = .ok text
          ∧ text.encode = .ok bytes := by
  constructor
  · rintro ⟨report, h⟩
    have hbatch : exec (runBatch setup now paths) s
        = (.ok report, (exec (runBatch setup now paths) s).2) := Prod.ext h rfl
    rw [runBatch_eq, exec_bind_eq_ok] at hbatch
    obtain ⟨decided, s₁, hdecide, hbatch⟩ := hbatch
    rw [exec_bind_eq_ok] at hbatch
    obtain ⟨_, s₂, hwrite, hpure⟩ := hbatch
    cases hpure
    obtain ⟨text, bytes, -, htext, hbytes, -⟩ := exec_writeOutput_ok hwrite
    exact ⟨report, by rw [hdecide], text, bytes, htext, hbytes⟩
  · rintro ⟨report, h, hdocument⟩
    -- the decisions leave as much room for the output as they find
    have hroom := (isInvariant_accommodates setup now paths.output).decideBatch houtput paths
    obtain ⟨s₁, hwrite⟩ := (exists_exec_writeOutput_iff hroom).2 hdocument
    have hdecide : exec (decideBatch setup now paths) s
        = (.ok report, (exec (decideBatch setup now paths) s).2) := Prod.ext h rfl
    refine ⟨report, ?_⟩
    rw [runBatch_eq, exec_bind_ok hdecide, exec_bind_ok hwrite]
    rfl

/-- A batch whose decisions break off breaks off over the same fault. -/
lemma exec_runBatch_of_decideBatch {fault : Fault}
    (h : (exec (decideBatch setup now paths) s).1 = .error fault) :
    (exec (runBatch setup now paths) s).1 = .error fault := by
  have hdecide : exec (decideBatch setup now paths) s
      = (.error fault, (exec (decideBatch setup now paths) s).2) := Prod.ext h rfl
  rw [runBatch_eq, exec_bind_error hdecide]

/-- With a draft and over a directory that mirrors a store in memory, a batch comes back exactly if
it can decide on its file of applications and its vacancy has a line, and otherwise breaks off
silently. -/
theorem returns_runBatch_inDirectory (h : Reflects directory s t) (hfiles : s.files = t.files)
    (hsetup : setup.IsStandard defaults) (hdefaults : defaults.IsDecoded)
    (hinputs : HasInputs t paths draft content) (hids : s.DrawsNewIds (lines content).length)
    (hapart : t.files.resolve paths.applications
      ≠ t.files.resolve (directory.child Store.vacanciesName)) :
    Returns (IsScreenable setup now defaults (t.nextVacancy now draft) content
        ∧ (t.nextVacancy now draft).toValue.IsEncodable)
      (exec (runBatch setup now paths) t).1 := by
  have hvacancy : t.nextVacancy now draft = s.nextVacancy now draft := by
    obtain ⟨_, _, h⟩ := h
    rw [nextVacancy, nextVacancy, h.ids]
  rw [hvacancy, ← Vacancy.lineFault?_eq_none]
  cases hline : Record.lineFault? (s.nextVacancy now draft) with
  | some fault =>
    obtain ⟨t', hregister⟩ := exec_registerFile_of_lineFault h hinputs hline
    refine .inr ⟨?_, .store (.noLine fault), ?_, rfl⟩
    · rintro ⟨-, ⟨⟩⟩
    · rw [runBatch, exec_bind_error hregister]
  | none =>
    have hinputs' : HasInputs s paths draft content := by
      obtain ⟨hvacancy, happlications, houtput⟩ := hinputs
      exact ⟨hfiles ▸ hvacancy, hfiles ▸ happlications, hfiles ▸ houtput⟩
    -- either both batches decide alike, or a result has no line and this one is not screenable
    rcases agreesUnless_decideBatch h hfiles hsetup hdefaults hinputs hids hapart hline with
      ⟨houtcome, -⟩ | ⟨⟨l, hl, a, ha, hnoline⟩, fault, t', hfails, hsilent⟩
    · refine returns_of_iff ?_ fun fault hfault => ?_
      · rw [exists_runBatch_iff_decideBatch hinputs.output, houtcome,
          ← exists_runBatch_iff_decideBatch hinputs'.output, and_iff_left rfl]
        exact (returns_runBatch hsetup hinputs' h.isContained.1 hids).isOk_iff
      · rcases exec_runBatch_error (Prod.ext hfault rfl) with hdecide | ⟨report, s₁, -, hwrite⟩
        · have hfails := exec_runBatch_of_decideBatch (houtcome.symm.trans (by rw [hdecide]))
          exact isSilent_of_runBatch hsetup hinputs' hids (Prod.ext hfails rfl)
        · exact isSilent_writeOutput _ _ _ _ _ hwrite
    · refine .inr ⟨?_, fault, ?_, hsilent⟩
      · rintro ⟨hscreenable, -⟩
        exact hnoline (lineFault?_of_isScreenable hdefaults hscreenable l hl a ha)
      · exact exec_runBatch_of_decideBatch (by rw [hfails])

end Pipeline

end Shortlist
