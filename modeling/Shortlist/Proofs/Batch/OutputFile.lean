import Shortlist.Proofs.Files.Presence
import Shortlist.Proofs.Pipeline.Congruence
import Shortlist.Proofs.Store.Growth

/-!
# What becomes of the output file

A batch first decides (`Pipeline.decideBatch`) and then writes its report.  If it breaks off over
its decisions, the output file is as it was; if it breaks off over the report, the file is as it was
too, unless the document of the report has no bytes, which is noticed when the file has been emptied
(`Pipeline.fileAt_of_runBatch_error`).

Nothing else may be written to the place of the output: neither a collection nor the audit trail is
kept there (`Session.IsAwayFrom`).  Inputs may be; they are only read.
-/

namespace Shortlist

open Shortlist.Action (exec exec_bind exec_bind_ok)

/-! ## Faults -/

/-- A fault over the document of a report. -/
def Fault.IsOfDocument : Fault → Prop
  | .unwritable _ | .unencodable _ => True
  | _ => False

/-- What a batch that breaks off leaves of an output file. -/
def Fault.leaves (fault : Fault) (before : Option Text.Bytes) : Option Text.Bytes :=
  match fault with
  | .unencodable _ => some []
  | _ => before

lemma Fault.leaves_of_not_isOfDocument {fault : Fault} (h : ¬fault.IsOfDocument)
    (before : Option Text.Bytes) : fault.leaves before = before := by
  cases fault with
  | unencodable fault => exact absurd trivial h
  | _ => rfl

namespace Action

variable {α β : Type} {s s' : Session} {fault : Fault}

/-- An action that fails over faults of one kind only. -/
def FailsWith (P : Fault → Prop) (x : Action α) : Prop :=
  ∀ s fault s', exec x s = (.error fault, s') → P fault

/-- An action that never fails over the document of a report. -/
abbrev IsEarly (x : Action α) : Prop := x.FailsWith fun fault => ¬fault.IsOfDocument

variable {P : Fault → Prop}

lemma FailsWith.bind {x : Action α} {f : α → Action β} (hx : x.FailsWith P)
    (hf : ∀ a, (f a).FailsWith P) : (x >>= f).FailsWith P := by
  intro s fault s' h
  rcases exec_bind_eq_error.1 h with h | ⟨a, s₁, -, h⟩
  · exact hx s fault s' h
  · exact hf a s₁ fault s' h

lemma failsWith_pure (a : α) : (pure a : Action α).FailsWith P := by
  rintro s fault s' ⟨⟩

lemma failsWith_throw (h : P fault) : (throw fault : Action α).FailsWith P := by
  rintro s _ s' ⟨⟩
  exact h

lemma failsWith_get : (get : Action Session).FailsWith P := by
  rintro s fault s' ⟨⟩

end Action

open Shortlist.Action (IsEarly failsWith_pure failsWith_throw failsWith_get exec_bind_eq_error)

namespace Session

variable {P : Fault → Prop}

lemma failsWith_report (events : List Event) : (report events).FailsWith P := by
  rintro s fault s' ⟨⟩

lemma failsWith_freshId (word : String) : (freshId word).FailsWith P := by
  rintro s fault s' ⟨⟩

lemma failsWith_askExtractor (extractor : Extractor) (documents : Documents) :
    (askExtractor extractor documents).FailsWith P := by
  rintro s fault s' ⟨⟩

lemma failsWith_readFile (hobstructed : ∀ o, P (.obstructed o)) (p : Path) :
    (readFile p).FailsWith P := by
  intro s fault s' h
  rw [exec_readFile] at h
  split at h
  · cases h
  · cases h
    exact hobstructed _

lemma failsWith_changeFiles (hobstructed : ∀ o, P (.obstructed o))
    (change : Tree → Except Obstructed Tree) : (changeFiles change).FailsWith P := by
  intro s fault s' h
  rw [exec_changeFiles] at h
  split at h
  · cases h
  · cases h
    exact hobstructed _

lemma isEarly_ofStore {α : Type} (outcome : Except StoreFault α) : (ofStore outcome).IsEarly := by
  cases outcome with
  | ok a => exact failsWith_pure a
  | error fault => exact failsWith_throw id

lemma isEarly_insertVacancy (v : Vacancy) : (insertVacancy v).IsEarly := by
  intro s fault s' h
  rw [exec_insertVacancy] at h
  split at h
  · cases h
  · cases h
    exact id

end Session

/-! ## Decisions -/

namespace Pipeline

open Session

variable {setup : Setup} {now : Instant} {paths : BatchPaths} {report : BatchReport} {fault : Fault}
  {s s' : Session}

lemma isEarly_settle (ruling : Ruling) : (settle ruling).IsEarly := by
  intro s fault s' h
  rcases exec_settle_error h with ⟨-, refusal, rfl, -⟩ | ⟨applications, files, -, -, hbroke⟩
  · exact id
  · obtain ⟨raised, rfl, -⟩ := escapes_of_goOn hbroke
    exact id

lemma isEarly_openSubmission (vacancyId : Text) (applicantId : Option Text)
    (documents : Documents) :
    (openSubmission vacancyId applicantId documents).IsEarly := by
  refine failsWith_get.bind fun s => (isEarly_ofStore _).bind fun found => ?_
  cases found with
  | some v => exact failsWith_pure _
  | none => exact (failsWith_report _).bind fun _ => failsWith_throw id

lemma isEarly_draw (submission : OpenSubmission) (facts : Facts) (decision : Decision) :
    (draw setup now submission facts decision).IsEarly := by
  have hid : (applicationId setup.applicationIds).IsEarly := by
    cases setup.applicationIds with
    | drawn => exact failsWith_freshId _
    | always id => exact failsWith_pure _
  have hfeedback : IsEarly (ExceptT.mk (pure decision.feedback) : Action (Option Text)) := by
    intro s fault s' h
    rw [Action.exec_lift] at h
    rw [Decision.feedback_eq_error (congrArg Prod.fst h)]
    exact id
  exact hid.bind fun _ => hfeedback.bind fun _ => failsWith_pure _

lemma isEarly_judge (submission : OpenSubmission)
    (extracted : List Event × Except ExtractionFault Facts) :
    (judge setup now submission extracted).IsEarly := by
  refine (failsWith_report _).bind fun _ => ?_
  cases extracted.2 with
  | error fault => exact failsWith_throw id
  | ok facts =>
    dsimp only
    cases Decision.ofFacts setup now submission.vacancy.requirements facts with
    | error fault => exact failsWith_throw id
    | ok decision => exact isEarly_draw submission facts decision

lemma isEarly_createApplication (vacancyId : Text) (applicantId : Option Text)
    (documents : Documents) :
    (createApplication setup now vacancyId applicantId documents).IsEarly := by
  rw [createApplication_eq]
  refine Action.FailsWith.bind ?_ isEarly_settle
  exact (isEarly_openSubmission _ _ _).bind fun submission =>
    (failsWith_askExtractor _ _).bind fun extracted => isEarly_judge submission extracted

lemma isEarly_decideEntries (vacancyId : Text) (number : Nat) (entries : List BatchEntry) :
    (decideEntries setup now vacancyId number entries).IsEarly := by
  induction entries generalizing number with
  | nil => exact failsWith_pure _
  | cons entry rest ih =>
    rw [decideEntries]
    cases entry.vacancyId.filter (· ≠ vacancyId) with
    | some other =>
      exact (failsWith_report _).bind fun _ => (ih _).bind fun _ => failsWith_pure _
    | none =>
      refine (isEarly_createApplication _ _ _).bind fun a => ?_
      refine Action.FailsWith.bind ?_ fun _ => (ih _).bind fun _ => failsWith_pure _
      rw [checkReducible]
      cases Record.dump? a with
      | ok _ => exact failsWith_pure ()
      | error fault => exact failsWith_throw id

lemma isEarly_registerVacancy (draft : VacancyDraft) : (registerVacancy now draft).IsEarly :=
  (failsWith_freshId _).bind fun _ => (isEarly_insertVacancy _).bind fun _ =>
    (failsWith_report _).bind fun _ => failsWith_pure _

lemma isEarly_ofCheck {α : Type} (subject : Subject) (check : Check α) :
    (ofCheck subject check).IsEarly := by
  cases check with
  | accepted a => exact failsWith_pure a
  | refused issues => exact failsWith_throw id
  | broken fault => exact failsWith_throw id

lemma isEarly_createVacancy (document : Value) : (createVacancy now document).IsEarly :=
  (isEarly_ofCheck _ _).bind isEarly_registerVacancy

lemma isEarly_registerFile (p : Path) : (registerFile now p).IsEarly := by
  refine (failsWith_readFile (fun _ => id) p).bind fun bytes => ?_
  cases readVacancyFile bytes with
  | error fault => cases fault <;> exact failsWith_throw id
  | ok document => exact isEarly_createVacancy document

lemma isEarly_loadApplications (p : Path) : (loadApplications p).IsEarly := by
  refine (failsWith_readFile (fun _ => id) p).bind fun bytes => ?_
  cases ApplicationsFile.read bytes with
  | error fault => exact failsWith_throw id
  | ok file =>
    dsimp only
    split
    · exact (failsWith_report _).bind fun _ => failsWith_pure _
    · exact failsWith_pure _

/-- The part of a batch before its report is written. -/
def decideBatch (setup : Setup) (now : Instant) (paths : BatchPaths) : Action BatchReport := do
  let vacancy ← registerFile now paths.vacancy
  let file ← loadApplications paths.applications
  let (results, mismatches) ← decideEntries setup now vacancy.id 1 file.entries
  return ⟨vacancy.id, results, file.errors.map .line ++ mismatches, timeText now⟩

lemma runBatch_eq (setup : Setup) (now : Instant) (paths : BatchPaths) :
    runBatch setup now paths = decideBatch setup now paths >>= fun report =>
      writeOutput paths.output report.toValue >>= fun _ => pure report := by
  simp only [runBatch, decideBatch, bind_assoc, pure_bind]

lemma isEarly_decideBatch : (decideBatch setup now paths).IsEarly :=
  (isEarly_registerFile _).bind fun _ => (isEarly_loadApplications _).bind fun _ =>
    (isEarly_decideEntries _ _ _).bind fun _ => failsWith_pure _

end Pipeline

/-- Work that reads any file and writes no output. -/
def decidingScope : Scope where
  documents _ := True
  reads _ := True
  writes _ := False
  documents_of_hasDecodedFacts _ _ := trivial

/-- The decisions of a batch preserve what each single step of them preserves. -/
lemma IsInvariant.decideBatch {setup : Setup} {now : Instant} {I : Session → Prop} {s : Session}
    (h : IsInvariant setup now decidingScope I) (hs : I s) (paths : BatchPaths) :
    I (exec (Pipeline.decideBatch setup now paths) s).2 := by
  have hrespected := h.isRespected_never
  refine (Action.agreeUntil_never.1 ((hrespected.registerFile (p := paths.vacancy) trivial).bind
    (fun vacancy => ?_) s s ⟨rfl, hs⟩)).2.2
  exact (hrespected.loadApplications (p := paths.applications) trivial).bind fun file =>
    (hrespected.decideEntries vacancy.id 1 fun _ _ => trivial).bind fun _ => Action.respects_pure _

/-! ## Room for the output -/

/-- There is still room for an output when a batch has made its decisions. -/
lemma isInvariant_accommodates (setup : Setup) (now : Instant) (output : Path) :
    IsInvariant setup now decidingScope fun s => s.files.Accommodates output where
  quiet _ _ _ huntouched _ _ h := by
    rw [huntouched.files]
    exact h
  vacancy _ _ _ _ hinsert h := by
    obtain rfl | ⟨p, content, -, hwrite⟩ := Collection.write_of_insert hinsert
    · exact h
    · exact h.of_write hwrite
  application s ruling _ files hinsert _ h := by
    have hfiles : files.Accommodates output := by
      obtain rfl | ⟨p, content, -, hwrite⟩ := Collection.write_of_insert hinsert
      · exact h
      · exact h.of_write hwrite
    exact AuditTrail.append_preserves (P := (Tree.Accommodates · output))
      (fun _ _ _ _ _ hroom hwrite => hroom.of_write hwrite) hfiles _
  output _ _ _ hp _ _ := hp.elim

/-! ## The file at a place -/

/-- Nothing that a pipeline writes to while it decides is at a place. -/
structure Session.IsAwayFrom (s : Session) (place : Place) : Prop where
  trail : ∀ p, s.audit = .file p → s.files.resolve p ≠ place
  vacancies : ∀ p, s.store.vacancies.path? = some p → s.files.resolve p ≠ place
  applications : ∀ p, s.store.applications.path? = some p → s.files.resolve p ≠ place

/-- A session that is away from a place, where the file is the one of the start. -/
structure KeepsFile (start : Tree) (place : Place) (s : Session) : Prop where
  away : s.IsAwayFrom place
  here : s.files.here = start.here
  fileAt : s.files.fileAt place = start.fileAt place

namespace KeepsFile

variable {start files : Tree} {place : Place} {s s' : Session}

lemma start_of_isAwayFrom (h : s.IsAwayFrom place) : KeepsFile s.files place s := ⟨h, rfl, rfl⟩

lemma of_untouched (h : KeepsFile start place s) (huntouched : Pipeline.Untouched s s') :
    KeepsFile start place s' := by
  obtain ⟨hstore, hfiles, haudit⟩ := huntouched
  refine ⟨⟨?_, ?_, ?_⟩, ?_, ?_⟩
  · rw [haudit, hfiles]
    exact h.away.trail
  · rw [hstore, hfiles]
    exact h.away.vacancies
  · rw [hstore, hfiles]
    exact h.away.applications
  · rw [hfiles, h.here]
  · rw [hfiles, h.fileAt]

/-- An insertion into a collection that is kept elsewhere leaves the file at the place as it is. -/
lemma of_insert {α : Type} [Record α] {c c' : Collection α} {a : α}
    (hinsert : c.insert s.files a = .ok (c', files))
    (hne : ∀ p, c.path? = some p → s.files.resolve p ≠ place) :
    files.here = s.files.here ∧ files.fileAt place = s.files.fileAt place := by
  obtain rfl | ⟨p, content, hp, hwrite⟩ := Collection.write_of_insert hinsert
  · exact ⟨rfl, rfl⟩
  · exact ⟨Tree.here_write hwrite, Tree.fileAt_write_ne hwrite (hne p hp).symm⟩

lemma vacancy (h : KeepsFile start place s) {v : Vacancy} {vacancies : Collection Vacancy}
    (hinsert : s.store.vacancies.insert s.files v = .ok (vacancies, files)) :
    KeepsFile start place { s with files, store := { s.store with vacancies } } := by
  obtain ⟨hhere, hfile⟩ := of_insert hinsert h.away.vacancies
  have hresolve (p : Path) : files.resolve p = s.files.resolve p := Tree.resolve_of_here hhere p
  refine ⟨⟨fun p hp => ?_, fun p hp => ?_, fun p hp => ?_⟩, hhere.trans h.here,
    hfile.trans h.fileAt⟩
  · exact hresolve p ▸ h.away.trail p hp
  · exact hresolve p ▸ h.away.vacancies p ((Collection.path?_of_insert hinsert).symm.trans hp)
  · exact hresolve p ▸ h.away.applications p hp

/-- A decision that is recorded elsewhere leaves the file at the place as it is. -/
lemma append {trail : AuditTrail} (hne : ∀ p, trail = .file p → files.resolve p ≠ place)
    (r : AuditRecord) :
    (trail.append files r).2.1.here = files.here
      ∧ (trail.append files r).2.1.fileAt place = files.fileAt place := by
  refine AuditTrail.append_preserves (P := fun t => t.here = files.here
    ∧ t.fileAt place = files.fileAt place) ?_ ⟨rfl, rfl⟩ r
  rintro p hp t content t' ⟨hhere, hfile⟩ hwrite
  have hplace : place ≠ t.resolve p := by
    rw [Tree.resolve_of_here hhere]
    exact (hne p hp).symm
  exact ⟨(Tree.here_write hwrite).trans hhere, (Tree.fileAt_write_ne hwrite hplace).trans hfile⟩

lemma application (h : KeepsFile start place s) {ruling : Ruling}
    {applications : Collection Application}
    (hinsert : s.store.applications.insert s.files ruling.application = .ok (applications, files)) :
    KeepsFile start place (s.settled ruling applications files) := by
  obtain ⟨hhere, hfile⟩ := of_insert hinsert h.away.applications
  have hne (p : Path) (hp : s.audit = .file p) : files.resolve p ≠ place := by
    rw [Tree.resolve_of_here hhere]
    exact h.away.trail p hp
  obtain ⟨hhere', hfile'⟩ := append hne ruling.record
  have hresolve (p : Path) :
      (s.audit.append files ruling.record).2.1.resolve p = s.files.resolve p :=
    Tree.resolve_of_here (hhere'.trans hhere) p
  refine ⟨⟨fun p hp => ?_, fun p hp => ?_, fun p hp => ?_⟩, (hhere'.trans hhere).trans h.here,
    (hfile'.trans hfile).trans h.fileAt⟩
  · exact hresolve p ▸ h.away.trail p (AuditTrail.eq_file_of_append hp)
  · exact hresolve p ▸ h.away.vacancies p hp
  · exact hresolve p ▸ h.away.applications p ((Collection.path?_of_insert hinsert).symm.trans hp)

lemma isInvariant (setup : Setup) (now : Instant) (start : Tree) (place : Place) :
    IsInvariant setup now decidingScope (KeepsFile start place) where
  quiet _ _ _ huntouched _ _ h := h.of_untouched huntouched
  vacancy _ _ _ _ hinsert h := h.vacancy hinsert
  application _ _ _ _ hinsert _ h := h.application hinsert
  output _ _ _ hp _ _ := hp.elim

end KeepsFile

/-! ## The report -/

namespace Pipeline

open Session

variable {setup : Setup} {now : Instant} {paths : BatchPaths} {report : BatchReport} {fault : Fault}
  {s s' : Session} {p : Path} {v : Value}

lemma exec_changeFiles_error {change : Tree → Except Obstructed Tree}
    (h : exec (changeFiles change) s = (.error fault, s')) :
    (∃ o, change s.files = .error o ∧ fault = .obstructed o) ∧ s' = s := by
  rw [exec_changeFiles] at h
  split at h
  · cases h
  · rename_i o hchange
    cases h
    exact ⟨⟨o, hchange, rfl⟩, rfl⟩

/-- A report that is not written changes nothing but the files, and of these no other one than the
output.  Where the output has been emptied there is room for it, so that only a text without bytes
can keep it from being written. -/
lemma exec_writeOutput_error (h : exec (writeOutput p v) s = (.error fault, s')) :
    ∃ files, s' = { s with files } ∧ files.here = s.files.here
      ∧ files.fileAt (s.files.resolve p) = fault.leaves (s.files.fileAt (s.files.resolve p)) := by
  rw [writeOutput, exec_bind_eq_error] at h
  rcases h with h | ⟨_, s₁, hmake, h⟩
  · obtain ⟨⟨o, -, rfl⟩, rfl⟩ := exec_changeFiles_error h
    exact ⟨s'.files, rfl, rfl, rfl⟩
  · obtain ⟨t₁, hmade, rfl⟩ := exec_changeFiles_ok hmake
    have hhere := Tree.here_makeDirectories hmade
    have hfile := Tree.fileAt_makeDirectories hmade (s.files.resolve p)
    split at h
    · cases h
      exact ⟨t₁, rfl, hhere, hfile⟩
    · rw [exec_bind_eq_error] at h
      rcases h with h | ⟨_, s₂, hempty, h⟩
      · obtain ⟨⟨o, -, rfl⟩, rfl⟩ := exec_changeFiles_error h
        exact ⟨t₁, rfl, hhere, hfile⟩
      · obtain ⟨t₂, hemptied, rfl⟩ := exec_changeFiles_ok hempty
        split at h
        · cases h
          refine ⟨t₂, rfl, (Tree.here_write hemptied).trans hhere, ?_⟩
          rw [← Tree.resolve_of_here hhere p]
          exact Tree.fileAt_write hemptied
        -- the file could be emptied, so it can be written: this last fault does not come up
        · rename_i bytes _
          have hroom := (Tree.hasRoom_of_write hemptied).of_write hemptied
          obtain ⟨⟨o, hobstructed, -⟩, -⟩ := exec_changeFiles_error h
          cases (hroom.write bytes).symm.trans hobstructed

/-- A batch that breaks off breaks off over its decisions or over its report. -/
lemma exec_runBatch_error (h : exec (runBatch setup now paths) s = (.error fault, s')) :
    exec (decideBatch setup now paths) s = (.error fault, s')
      ∨ ∃ report decided, exec (decideBatch setup now paths) s = (.ok report, decided)
        ∧ exec (writeOutput paths.output report.toValue) decided = (.error fault, s') := by
  rw [runBatch_eq, exec_bind_eq_error] at h
  rcases h with h | ⟨report, decided, hdecide, h⟩
  · exact .inl h
  · rcases exec_bind_eq_error.1 h with hwrite | ⟨_, _, -, hpure⟩
    · exact .inr ⟨report, decided, hdecide, hwrite⟩
    · cases hpure

/-- A batch that breaks off leaves the output file as it was, unless the document of its report has
no bytes; then it leaves an empty file. -/
theorem fileAt_of_runBatch_error (haway : s.IsAwayFrom (s.files.resolve paths.output))
    (h : exec (runBatch setup now paths) s = (.error fault, s')) :
    s'.files.fileAt (s.files.resolve paths.output)
      = fault.leaves (s.files.fileAt (s.files.resolve paths.output)) := by
  have hkeeps :=
    (KeepsFile.isInvariant setup now s.files (s.files.resolve paths.output)).decideBatch
    (.start_of_isAwayFrom haway) paths
  rcases exec_runBatch_error h with h | ⟨report, decided, hdecide, hwrite⟩
  · rw [h] at hkeeps
    rw [Fault.leaves_of_not_isOfDocument (isEarly_decideBatch _ _ _ h)]
    exact hkeeps.fileAt
  · rw [hdecide] at hkeeps
    obtain ⟨files, rfl, -, hfile⟩ := exec_writeOutput_error hwrite
    rw [Tree.resolve_of_here hkeeps.here, hkeeps.fileAt] at hfile
    exact hfile

end Pipeline

end Shortlist
