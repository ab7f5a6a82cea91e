import Shortlist.Proofs.Batch.Isolation
import Shortlist.Proofs.Batch.OutputFile

/-!
# Faults without a message

A fault that a pipeline knows of has a message, and whoever runs a batch can show it.  The others
have none (`Fault.IsSilent`).  Over a store in memory in which the ids are new, a batch breaks off
with a message over its vacancy document or not at all: once the vacancy is registered, each fault
is silent (`Pipeline.isSilent_of_runBatch`).  So there are three ways in which the batch can end,
and the files and the setup decide which one it is: it comes back, its vacancy document is refused,
or it breaks off silently.
-/

namespace Shortlist

open ApplicationsFile (lines validLines)
open Shortlist.Action (exec exec_bind_ok exec_bind_error exec_bind_eq_ok exec_bind_eq_error
  failsWith_pure failsWith_throw)

/-- A fault without a message. -/
def Fault.IsSilent (fault : Fault) : Prop := fault.message? = none

/-- The draft in a vacancy file, or the fault over which its registration breaks off. -/
def VacancyDraft.readFile (bytes : Text.Bytes) : Except Fault VacancyDraft :=
  match readVacancyFile bytes with
  | .error (.file fault) => .error (.file fault)
  | .error fault => .error (.vacancyFile fault)
  | .ok document =>
    match read document with
    | .accepted draft => .ok draft
    | .refused issues => .error (.invalid .vacancy issues)
    | .broken fault => .error (.durationPair fault)

lemma VacancyDraft.readFile_eq_ok {bytes : Text.Bytes} {draft : VacancyDraft} :
    readFile bytes = .ok draft
      ↔ ∃ document, readVacancyFile bytes = .ok document ∧ read document = .accepted draft := by
  rw [readFile]
  rcases readVacancyFile bytes with fault | document
  · cases fault <;> simp
  · cases hread : read document <;> simp [hread]

namespace Pipeline

open Session

variable {setup : Setup} {now : Instant} {defaults : Facts} {paths : BatchPaths}
  {draft : VacancyDraft} {content : Text.Bytes} {v : Vacancy} {output : Path} {number n : Nat}
  {entry : BatchEntry} {ls : List ValidLine} {bytes : Text.Bytes} {fault : Fault}
  {report : BatchReport} {s s' : Session}

/-- A batch whose vacancy document holds no draft breaks off at once. -/
lemma exec_runBatch_of_refused (hbytes : s.files.read paths.vacancy = .ok bytes)
    (hrefused : VacancyDraft.readFile bytes = .error fault) :
    exec (runBatch setup now paths) s = (.error fault, s) := by
  have hread : exec (readFile paths.vacancy) s = (.ok bytes, s) := by
    rw [exec_readFile, hbytes]
  have hregister : exec (registerFile now paths.vacancy) s = (.error fault, s) := by
    rw [registerFile, exec_bind_ok hread]
    rw [VacancyDraft.readFile] at hrefused
    -- reading the file as a draft refuses it for the reasons for which registering it fails
    split at hrefused
    · rename_i hfile
      cases hrefused
      rw [hfile]
      rfl
    · rename_i fault' hnot hfile
      cases hrefused
      rw [hfile]
      cases fault' with
      | file fault => exact absurd rfl (hnot fault)
      | malformed m => rfl
      | notObject => rfl
    · rename_i document hfile
      rw [hfile]
      dsimp only
      rw [createVacancy]
      split at hrefused
      · cases hrefused
      · rename_i issues hread
        cases hrefused
        rw [hread]
        rfl
      · rename_i duration hread
        cases hrefused
        rw [hread]
        rfl
  rw [runBatch, exec_bind_error hregister]

/-! ## Silent faults -/

lemma isSilent_writeOutput (p : Path) (value : Value) :
    (writeOutput p value).FailsWith Fault.IsSilent := by
  have hchange (change : Tree → Except Obstructed Tree) :
      (changeFiles change).FailsWith Fault.IsSilent := failsWith_changeFiles (fun _ => rfl) change
  refine (hchange _).bind fun _ => ?_
  split
  · exact failsWith_throw rfl
  · refine (hchange _).bind fun _ => ?_
    split
    · exact failsWith_throw rfl
    · exact hchange _

lemma isSilent_loadApplications (p : Path) :
    (loadApplications p).FailsWith Fault.IsSilent := by
  refine (failsWith_readFile (fun _ => rfl) p).bind fun bytes => ?_
  split
  · dsimp only
    split
    · exact (failsWith_report _).bind fun _ => failsWith_pure _
    · exact failsWith_pure _
  · exact failsWith_throw rfl

/-- In a session that is ready, an entry fails over a requirement that cannot be judged by its
facts, or with what escapes from the audit trail. -/
lemma isSilent_of_createApplication (hready : s.IsReady v output (n + 1))
    (hsetup : setup.IsStandard defaults)
    (h : exec (createApplication setup now v.id entry.applicantId entry.documents) s
      = (.error fault, s')) : fault.IsSilent := by
  cases hdecision : Decision.ofFacts setup now v.requirements (entry.factsOr defaults) with
  | ok decision =>
    obtain ⟨feedback, hfeedback⟩ := exists_feedback hsetup.separator hdecision
    obtain ⟨b, record, s₁, hcreate, -⟩ :=
      hready.exec_createApplication hsetup ⟨"", decision, feedback, hdecision, hfeedback, rfl⟩
    obtain ⟨hbroke, -⟩ := Prod.mk.inj (hcreate.symm.trans h)
    obtain ⟨raised, rfl, -⟩ := escapes_of_goOn hbroke
    rfl
  -- there is no decision, so nothing is stored and the trail is not asked
  | error unjudgeable =>
    obtain ⟨l, hl, hv, -⟩ := hready.holds
    have hget : s.store.vacancies.get? s.files v.id = .ok (some v) := by
      rw [hl.get?_eq, hv]
    have hfacts : (setup.extractor.run s.asked entry.documents).2
        = .ok (entry.factsOr defaults) := by
      rw [hsetup.extractor]
      exact Extractor.run_standard _ _ _
    rw [createApplication, exec_bind_ok (exec_openSubmission_of_get? hget),
      exec_bind_ok (exec_askExtractor _ _ _), decide, exec_bind_ok (exec_report _ _), hfacts] at h
    dsimp only at h
    rw [hdecision] at h
    cases h
    rfl

lemma isSilent_of_decideEntries (hsetup : setup.IsStandard defaults)
    (hready : s.IsReady v output (ls.filter (·.joins v.id)).length)
    (h : exec (decideEntries setup now v.id number (ls.map (·.entry))) s = (.error fault, s')) :
    fault.IsSilent := by
  obtain ⟨l, -, ⟨n, s₁, s₂, hready₁, hcreate⟩ | ⟨a, plainFault, rfl, -⟩⟩ :=
    exists_of_decideEntries_error hsetup hready h
  · exact isSilent_of_createApplication hready₁ hsetup hcreate
  · rfl

/-! ## How a batch ends -/

/-- A batch comes back under a condition, and otherwise breaks off silently. -/
def Returns (condition : Prop) (outcome : Except Fault BatchReport) : Prop :=
  (condition ∧ ∃ report, outcome = .ok report)
    ∨ (¬condition ∧ ∃ fault, outcome = .error fault ∧ fault.IsSilent)

lemma returns_of_iff {condition : Prop} {outcome : Except Fault BatchReport}
    (hreturns : (∃ report, outcome = .ok report) ↔ condition)
    (hsilent : ∀ fault, outcome = .error fault → fault.IsSilent) : Returns condition outcome := by
  cases outcome with
  | ok report => exact .inl ⟨hreturns.1 ⟨report, rfl⟩, report, rfl⟩
  | error fault =>
    refine .inr ⟨fun h => ?_, fault, rfl, hsilent fault rfl⟩
    obtain ⟨report, hreport⟩ := hreturns.2 h
    cases hreport

lemma Returns.isOk_iff {condition : Prop} {outcome : Except Fault BatchReport}
    (h : Returns condition outcome) : (∃ report, outcome = .ok report) ↔ condition := by
  rcases h with ⟨hholds, hok⟩ | ⟨hnot, fault, rfl, -⟩
  · exact iff_of_true hok hholds
  · exact iff_of_false (by rintro ⟨report, ⟨⟩⟩) hnot

/-- A file of applications on which the batch of a vacancy can decide: it can be decoded, none of
its lines does harm, and the number of its results can be written. -/
structure IsScreenable (setup : Setup) (now : Instant) (defaults : Facts) (v : Vacancy)
    (content : Text.Bytes) : Prop where
  decodes : (Text.decodeUtf8 content).fault = none
  harmless : ∀ line ∈ lines content, IsHarmless setup now defaults v line.2
  count : digitCount (decidedLines v content).length ≤ integerDigitLimit

lemma length_decidedLines_le (v : Vacancy) (content : Text.Bytes) :
    (decidedLines v content).length ≤ (lines content).length :=
  (List.length_filter_le _ _).trans (List.length_filterMap_le _ _)

/-- The files of a session hold a vacancy document with this draft and these applications, and there
is room for the output. -/
structure HasInputs (s : Session) (paths : BatchPaths) (draft : VacancyDraft)
    (content : Text.Bytes) : Prop where
  vacancy : ∃ bytes document, s.files.read paths.vacancy = .ok bytes
    ∧ readVacancyFile bytes = .ok document ∧ VacancyDraft.read document = .accepted draft
  applications : s.files.read paths.applications = .ok content
  output : s.files.Accommodates paths.output

lemma HasInputs.holdsBatch (h : HasInputs s paths draft content)
    (hdecodes : (Text.decodeUtf8 content).fault = none) :
    s.files.HoldsBatch paths draft content :=
  ⟨h.vacancy, h.applications, hdecodes, h.output⟩

/-- The applications that a batch loads are those of its file. -/
lemma exec_loadApplications_inputs {registered loaded : Session} {file : ApplicationsFile}
    (hinputs : HasInputs s paths draft content) (hfiles : registered.files = s.files)
    (hload : exec (loadApplications paths.applications) registered = (.ok file, loaded)) :
    (Text.decodeUtf8 content).fault = none
      ∧ file.entries = (validLines (lines content)).map (·.entry) ∧ registered.Matches loaded := by
  obtain ⟨content', hread, hfile, hloads⟩ := exec_loadApplications_ok hload
  rw [hfiles, hinputs.applications] at hread
  cases hread
  obtain ⟨hdecodes, hcontents⟩ := ApplicationsFile.read_ok hfile
  exact ⟨hdecodes, ApplicationsFile.entries_of_readContents hcontents, hloads⟩

lemma decodes_of_runBatch (hinputs : HasInputs s paths draft content) (hids : s.DrawsNewIds n)
    (h : exec (runBatch setup now paths) s = (.ok report, s')) :
    (Text.decodeUtf8 content).fault = none := by
  obtain ⟨registered, hregister, -, hfiles⟩ :=
    exists_exec_registerFile_of_draft now hinputs.vacancy hinputs.output hids
  rw [runBatch, exec_bind_ok hregister, exec_bind_eq_ok] at h
  obtain ⟨file, loaded, hload, -⟩ := h
  exact (exec_loadApplications_inputs hinputs hfiles hload).1

/-- With a draft and over a store in memory a batch breaks off silently if it breaks off. -/
theorem isSilent_of_runBatch (hsetup : setup.IsStandard defaults)
    (hinputs : HasInputs s paths draft content) (hids : s.DrawsNewIds (lines content).length)
    (h : exec (runBatch setup now paths) s = (.error fault, s')) : fault.IsSilent := by
  obtain ⟨registered, hregister, hready, hfiles⟩ :=
    exists_exec_registerFile_of_draft now hinputs.vacancy hinputs.output hids
  rw [runBatch, exec_bind_ok hregister] at h
  rcases exec_bind_eq_error.1 h with hload | ⟨file, loaded, hload, hrest⟩
  · exact isSilent_loadApplications _ _ _ _ hload
  obtain ⟨-, hentries, hloads⟩ := exec_loadApplications_inputs hinputs hfiles hload
  have hready₁ := (hready.of_matches hloads).mono
    (length_decidedLines_le (s.nextVacancy now draft) content)
  rcases exec_bind_eq_error.1 hrest with hdecide | ⟨_, decided, -, hrest⟩
  · rw [hentries] at hdecide
    exact isSilent_of_decideEntries hsetup hready₁ hdecide
  rcases exec_bind_eq_error.1 hrest with hwrite | ⟨_, _, -, hpure⟩
  · exact isSilent_writeOutput _ _ _ _ _ hwrite
  · cases hpure

/-- With a draft and over a store in memory a batch comes back exactly if it can decide on its file
of applications, and otherwise breaks off silently. -/
lemma returns_runBatch (hsetup : setup.IsStandard defaults)
    (hinputs : HasInputs s paths draft content) (hcontained : s.audit.IsContained)
    (hids : s.DrawsNewIds (lines content).length) :
    Returns (IsScreenable setup now defaults (s.nextVacancy now draft) content)
      (exec (runBatch setup now paths) s).1 := by
  have hdecided := hids.mono (length_decidedLines_le (s.nextVacancy now draft) content)
  refine returns_of_iff ⟨?_, ?_⟩ fun fault h =>
    isSilent_of_runBatch hsetup hinputs hids (Prod.ext h rfl)
  · rintro ⟨report, h⟩
    have hbatch : exec (runBatch setup now paths) s
        = (.ok report, (exec (runBatch setup now paths) s).2) := Prod.ext h rfl
    have hdecodes := decodes_of_runBatch hinputs hids hbatch
    obtain ⟨hharmless, hcount⟩ := (exists_isOutcome_iff hsetup).1
      ⟨_, isOutcome_of_runBatch hsetup (hinputs.holdsBatch hdecodes) hdecided hbatch⟩
    exact ⟨hdecodes, hharmless, hcount⟩
  · intro h
    obtain ⟨results, houtcome⟩ := (exists_isOutcome_iff hsetup).2 ⟨h.harmless, h.count⟩
    obtain ⟨report, s', hbatch⟩ :=
      exists_exec_runBatch hsetup (hinputs.holdsBatch h.decodes) hcontained hdecided houtcome
    exact ⟨report, by rw [hbatch]⟩

end Pipeline

end Shortlist
