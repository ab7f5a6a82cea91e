import Shortlist.Proofs.Audit
import Shortlist.Proofs.Pipeline.Congruence
import Shortlist.Proofs.Store.Clearance

/-!
# When an audit trail makes no difference

A run of errands with an audit trail and one without come to the same as long as nothing escapes
from the trail: whether it records, fails at any of its calls with a text to tell, or is a file that
cannot be written.  What comes back is the same, so are the store and all files but that of the
trail, and of the events only those differ that say that a decision could not be recorded.  As soon
as something escapes, the errand ends with it and the two runs differ (`Errand.run_transparent`).
The trail may be in a file that no path of the store or of an errand leads to or passes through.

The proof follows two sessions, one of which shadows the other (`Shadows`), up to the first break.
-/

namespace Shortlist

open Shortlist.Action (exec AgreeUntil Respects)

/-! ## Attempts -/

/-- An attempt to record a decision, with what came of it. -/
structure Attempt where
  record : AuditRecord
  outcome : Except AuditFault Unit

/-- The events of a run without a trail, the attempts to record a decision, and the events of the
same run with a trail.  There is one attempt for each decision, and if it failed and nothing
escaped, the decision is followed by one event that says so. -/
inductive Reported (start : List Event) :
    List Event → List Attempt → List Event → Prop where
  | nothing : Reported start start [] start
  | quiet {es es' : List Event} {attempts : List Attempt} (h : Reported start es attempts es')
    (e : Event) (he : e.IsQuiet) : Reported start (es ++ [e]) attempts (es' ++ [e])
  | decision {es es' : List Event} {attempts : List Attempt} (h : Reported start es attempts es')
    (a : Attempt) : Reported start (es ++ [a.record.decided]) (attempts ++ [a])
      (es' ++ a.record.decided :: a.record.failures a.outcome)

/-- Quiet events are reported with a trail as well as without one. -/
lemma Reported.append {start es es' : List Event} {attempts : List Attempt}
    (h : Reported start es attempts es') {events : List Event} (hquiet : ∀ e ∈ events, e.IsQuiet) :
    Reported start (es ++ events) attempts (es' ++ events) := by
  induction events generalizing es es' with
  | nil => simpa using h
  | cons e rest ih =>
    have hfirst := h.quiet e (hquiet e List.mem_cons_self)
    have hrest := ih hfirst fun e' he' => hquiet e' (List.mem_cons_of_mem _ he')
    simpa using hrest

namespace AuditTrail

variable {trail trail' : AuditTrail} {files files' : Tree} {attempts : List Attempt} {p : Path}

/-- A trail takes these attempts one after another, and is another one then.  Between them anything
may happen to the files. -/
inductive Takes (trail : AuditTrail) : List Attempt → AuditTrail → Prop where
  | nothing : Takes trail [] trail
  | attempt {attempts : List Attempt} {trail' : AuditTrail} (h : Takes trail attempts trail')
    (files : Tree) (r : AuditRecord) :
    Takes trail (attempts ++ [⟨r, (trail'.append files r).2.2⟩]) (trail'.append files r).1

lemma Takes.eq_file (h : trail.Takes attempts trail') (hfile : trail' = .file p) :
    trail = .file p := by
  induction h with
  | nothing => exact hfile
  | attempt h files r ih => exact ih (eq_file_of_append hfile)

/-- The places that a trail may write to: that of its file, unless it is a directory. -/
def Touches (trail : AuditTrail) (files : Tree) (place : Place) : Prop :=
  (∃ p, trail = .file p ∧ place = files.resolve p) ∧ files.item? place ≠ some .directory

/-- Recording a decision changes nothing but what is at a place that may be touched. -/
lemma sameBut_append {touched : Place → Prop} (h : Tree.SameBut touched files files')
    (htouched : ∀ p, trail = .file p → files'.item? (files'.resolve p) ≠ some .directory →
      touched (files'.resolve p)) (r : AuditRecord) :
    Tree.SameBut touched files (trail.append files' r).2.1 := by
  let P (t : Tree) : Prop := Tree.SameBut touched files t ∧ ∀ p, trail = .file p →
    t.item? (t.resolve p) ≠ some .directory → touched (t.resolve p)
  have hP : ∀ p, trail = .file p → ∀ t content t', P t → t.write p content = .ok t' → P t' := by
    rintro p rfl t content t' ⟨hsame, htouched⟩ hwrite
    obtain ⟨-, hdir, rfl⟩ := Tree.write_eq_ok hwrite
    have hplace := htouched p rfl hdir
    refine ⟨hsame.put_right hplace _, ?_⟩
    rintro q hq -
    cases hq
    exact hplace
  exact (append_preserves (P := P) hP ⟨h, htouched⟩ r).1

end AuditTrail

/-! ## Shadows -/

/-- Two sessions, of which the second one has had a trail since the start and the first one none:
they have the same store, draw the same ids and have asked the extractor equally often; their files
are the same but for that of the trail, and so are their events but for the failures to record. -/
structure Shadows (trail : AuditTrail) (start s t : Session) : Prop where
  store : t.store = s.store
  ids : t.ids = s.ids
  asked : t.asked = s.asked
  audit : s.audit = .off
  files : Tree.SameBut (trail.Touches start.files) s.files t.files
  here : s.files.here = start.files.here
  directory : ∀ place, start.files.item? place = some .directory →
    s.files.item? place = some .directory
  vacancies : s.store.vacancies.IsClear start.files (trail.Touches start.files)
  applications : s.store.applications.IsClear start.files (trail.Touches start.files)
  told : ∃ attempts, trail.Takes attempts t.audit
    ∧ Reported start.events s.events attempts t.events

namespace Shadows

variable {trail : AuditTrail} {start s t : Session} {p : Path}

lemma isClear (h : Shadows trail start s t)
    (hclear : start.files.IsClear (trail.Touches start.files) p) :
    s.files.IsClear (trail.Touches start.files) p := (Tree.isClear_of_here h.here).2 hclear

lemma isClear_vacancies (h : Shadows trail start s t) :
    s.store.vacancies.IsClear s.files (trail.Touches start.files) :=
  fun p hp => h.isClear (h.vacancies p hp)

lemma isClear_applications (h : Shadows trail start s t) :
    s.store.applications.IsClear s.files (trail.Touches start.files) :=
  fun p hp => h.isClear (h.applications p hp)

lemma showsAlike (h : Shadows trail start s t) : s.ShowsAlike t := by
  constructor
  · intro id
    rw [h.store, Collection.get?_of_sameBut h.files h.isClear_vacancies]
  · rw [h.store, Collection.toList_of_sameBut h.files h.isClear_vacancies]
  · rw [h.store, Collection.toList_of_sameBut h.files h.isClear_applications]
  · intro condition
    rw [h.store, Collection.filter_of_sameBut h.files h.isClear_applications]

/-- The files of both sessions have been changed alike. -/
lemma of_sameOff (h : Shadows trail start s t) {files files' : Tree}
    (hoff : Tree.SameOff p s.files files)
    (hsame : Tree.SameBut (trail.Touches start.files) files files') :
    Shadows trail start { s with files } { t with files := files' } where
  store := h.store
  ids := h.ids
  asked := h.asked
  audit := h.audit
  files := hsame
  here := hoff.here.trans h.here
  directory place hdir := hoff.directory place (h.directory place hdir)
  vacancies := h.vacancies
  applications := h.applications
  told := h.told

/-- At the start the sessions differ only in the trail. -/
lemma of_isClear
    (hvacancies : start.store.vacancies.IsClear start.files (trail.Touches start.files))
    (happlications : start.store.applications.IsClear start.files (trail.Touches start.files)) :
    Shadows trail start { start with audit := .off } { start with audit := trail } where
  store := rfl
  ids := rfl
  asked := rfl
  audit := rfl
  files := .refl _ _
  here := rfl
  directory _ h := h
  vacancies := hvacancies
  applications := happlications
  told := ⟨[], .nothing, .nothing⟩

/-- The trail of the second session touches nothing that it did not touch at the start. -/
lemma touches (h : Shadows trail start s t) (hp : t.audit = .file p)
    (hdir : t.files.item? (t.files.resolve p) ≠ some .directory) :
    trail.Touches start.files (t.files.resolve p) := by
  obtain ⟨attempts, htakes, -⟩ := h.told
  have hresolve : t.files.resolve p = start.files.resolve p := by
    rw [Tree.resolve_of_here h.files.here, Tree.resolve_of_here h.here]
  by_contra hnot
  rw [hresolve] at hdir hnot
  have hstart : start.files.item? (start.files.resolve p) = some .directory := by
    by_contra hstart
    exact hnot ⟨⟨p, htakes.eq_file hp, rfl⟩, hstart⟩
  rw [h.files.item? _ hnot] at hdir
  exact hdir (h.directory _ hstart)

end Shadows

/-! ## Single steps -/

namespace Shadows

variable {trail : AuditTrail} {start : Session} {p : Path}

lemma respects_insertVacancy (v : Vacancy) :
    (Session.insertVacancy v).Respects (Shadows trail start) Fault.IsEscape := by
  intro s t h
  rw [Session.exec_insertVacancy, Session.exec_insertVacancy, h.store]
  rcases Collection.insert_of_sameBut h.files h.isClear_vacancies v with
    ⟨fault, hs, ht⟩ | ⟨vacancies, files, files', hs, ht, hsame⟩
  · rw [hs, ht]
    refine .of_eq ?_ ⟨rfl, h⟩
    rintro _ ⟨⟩ ⟨raised, ⟨⟩⟩
  · rw [hs, ht]
    obtain ⟨q, hoff⟩ := Collection.sameOff_insert hs
    have hchanged := h.of_sameOff hoff hsame
    refine .of_eq (fun _ hfault => by cases hfault)
      ⟨rfl, { hchanged with store := rfl, vacancies := ?_ }⟩
    rw [Collection.IsClear, Collection.path?_of_insert hs]
    exact h.vacancies

/-- The settling of a ruling leaves shadowing sessions behind even if something escapes from the
trail. -/
lemma respects_settle {s t : Session} (h : Shadows trail start s t) (ruling : Ruling) :
    AgreeUntil (Shadows trail start) Fault.IsEscape (exec (Pipeline.settle ruling) s)
      (exec (Pipeline.settle ruling) t) := by
  rcases Collection.insert_of_sameBut h.files h.isClear_applications ruling.application with
    ⟨fault, hs, ht⟩ | ⟨applications, files, files', hs, ht, hsame⟩
  · rw [← h.store] at ht
    rw [Pipeline.exec_settle_of_error hs, Pipeline.exec_settle_of_error ht]
    refine .of_eq ?_ ⟨rfl, h⟩
    rintro _ ⟨⟩ ⟨raised, ⟨⟩⟩
  · obtain ⟨q, hoff⟩ := Collection.sameOff_insert hs
    have hchanged := h.of_sameOff hoff hsame
    obtain ⟨attempts, htakes, hreported⟩ := h.told
    rw [← h.store] at ht
    have hcontained : s.audit.IsContained := by
      rw [h.audit]
      exact AuditTrail.isContained_off
    rw [Pipeline.exec_settle_of_contained hcontained ruling hs, Pipeline.exec_settle_eq ruling ht]
    -- the settled sessions differ by what the trail writes and says, and by nothing else
    have hshadows : Shadows trail start (s.settled ruling applications files)
        (t.settled ruling applications files') := by
      rw [Session.settled, Session.settled, h.audit, AuditTrail.append_off]
      refine { hchanged with
        store := by rw [h.store]
        audit := rfl
        files := AuditTrail.sameBut_append hsame (fun p hp hdir => hchanged.touches hp hdir) _
        applications := ?_
        told := ⟨_, htakes.attempt files' ruling.record, hreported.decision ⟨ruling.record, _⟩⟩ }
      rw [Collection.IsClear, Collection.path?_of_insert hs]
      exact h.applications
    refine ⟨fun _ hfault => (by cases hfault), ⟨_, hshadows⟩, fun hgoes => ⟨?_, hshadows⟩⟩
    cases houtcome : AuditTrail.goOn ruling.application
        (t.audit.append files' ruling.record).2.2 with
    | ok a => rw [AuditTrail.eq_of_goOn_eq_ok houtcome]
    | error fault =>
      obtain ⟨raised, rfl, -⟩ := Pipeline.escapes_of_goOn houtcome
      exact absurd ⟨raised, rfl⟩ (hgoes _ houtcome)

lemma respects_changeFiles {change : Tree → Except Obstructed Tree}
    (hoff : ∀ files files', change files = .ok files' → Tree.SameOff p files files')
    (hchange : ∀ s t, Shadows trail start s t →
      Tree.ChangedAlike (trail.Touches start.files) (change s.files) (change t.files)) :
    (Session.changeFiles change).Respects (Shadows trail start) Fault.IsEscape := by
  intro s t h
  have hchanged := hchange s t h
  rw [Session.exec_changeFiles, Session.exec_changeFiles]
  generalize hs : change s.files = first at hchanged
  generalize change t.files = second at hchanged
  cases hchanged with
  | obstructed o =>
    refine .of_eq ?_ ⟨rfl, h⟩
    rintro _ ⟨⟩ ⟨raised, ⟨⟩⟩
  | changed hsame =>
    exact .of_eq (fun _ hfault => by cases hfault) ⟨rfl, h.of_sameOff (hoff _ _ hs) hsame⟩

/-- The scope of what keeps clear of a trail. -/
def scope (trail : AuditTrail) (files : Tree) : Scope where
  documents _ := True
  reads := files.IsClear (trail.Touches files)
  writes := files.IsClear (trail.Touches files)
  documents_of_hasDecodedFacts _ _ := trivial

lemma isRespected (setup : Setup) (now : Instant) (trail : AuditTrail) (start : Session) :
    IsRespected setup now (scope trail start.files) (Shadows trail start) Fault.IsEscape where
  escapes _ := id
  showsAlike s t h := h.showsAlike
  report events hquiet s t h := by
    obtain ⟨attempts, htakes, hreported⟩ := h.told
    exact .of_eq (fun _ hfault => by cases hfault)
      ⟨rfl, { h with told := ⟨attempts, htakes, hreported.append hquiet⟩ }⟩
  freshId word s t h := by
    rw [Session.exec_freshId, Session.exec_freshId, h.ids]
    exact .of_eq (fun _ hfault => by cases hfault) ⟨rfl, { h with ids := rfl }⟩
  askExtractor documents s t h := by
    rw [Session.exec_askExtractor, Session.exec_askExtractor, h.asked]
    exact .of_eq (fun _ hfault => by cases hfault) ⟨rfl, { h with asked := rfl }⟩
  insertVacancy := respects_insertVacancy
  settle s t ruling h _ := h.respects_settle ruling
  readFile p hp s t h := by
    rw [Session.exec_readFile, Session.exec_readFile, h.files.read (h.isClear hp)]
    refine .of_eq (fun fault hfault => ?_) ?_
    · cases hread : s.files.read p <;> rw [hread] at hfault <;> cases hfault
      rintro ⟨raised, ⟨⟩⟩
    · cases s.files.read p <;> exact ⟨rfl, h⟩
  makeDirectories p hp :=
    respects_changeFiles (fun _ _ hmake => Tree.sameOff_makeDirectories hmake) fun s t h =>
      h.files.makeDirectories ((h.isClear hp).mono rfl (List.dropLast_prefix _))
  write p content hp :=
    respects_changeFiles (fun _ _ hwrite => Tree.sameOff_write hwrite) fun s t h =>
      h.files.write (h.isClear hp) content

end Shadows

/-! ## Runs -/

/-- The paths that an errand uses. -/
def Errand.paths : Errand → List Path
  | .runBatch paths => [paths.vacancy, paths.applications, paths.output]
  | .writeFile path _ => [path]
  | _ => []

lemma Errand.isWithin_scope {trail : AuditTrail} {files : Tree} {errand : Errand}
    (h : ∀ p ∈ errand.paths, files.IsClear (trail.Touches files) p) :
    errand.IsWithin (Shadows.scope trail files) := by
  have houtputs : errand.outputs ⊆ errand.paths := by
    cases errand <;> simp [outputs, Errand.paths]
  refine isWithin_of (fun _ _ _ _ => trivial) ?_ fun p hp => h p (houtputs hp)
  rintro paths rfl
  exact ⟨h _ (by simp [Errand.paths]), h _ (by simp [Errand.paths])⟩

/-- No step of a pipeline lets anything escape from a contained trail, and the trail stays
contained. -/
lemma isRespected_isContained (setup : Setup) (now : Instant) :
    IsRespected setup now .everything (fun s t => s = t ∧ s.audit.IsContained) Fault.IsEscape := by
  have hinvariant : IsInvariant setup now .everything fun s => s.audit.IsContained :=
    { quiet := fun s s' events huntouched _ _ hs => huntouched.audit ▸ hs
      vacancy := fun s v vacancies files _ hs => hs
      application := fun s ruling applications files _ _ hs => hs.append files ruling.record
      output := fun s p files _ _ hs => hs }
  refine hinvariant.isRespected (fun _ => id) fun s ruling fault hs hfault => ?_
  rw [Pipeline.exec_settle_fst hs] at hfault
  obtain ⟨refusal, -, rfl⟩ := Except.mapError_eq_error.1 hfault
  rintro ⟨raised, ⟨⟩⟩

/-- From a contained trail nothing escapes in a run. -/
lemma Errand.not_isEscape_of_contained {setup : Setup} {errands : List (Instant × Errand)}
    {s : Session} (hcontained : s.audit.IsContained) {fault : Fault}
    (hreply : .error fault ∈ (run setup errands s).1) : ¬fault.IsEscape :=
  (IsRespected.run (fun e _ => ⟨isRespected_isContained setup e.1, isWithin_everything e.2⟩)
    ⟨rfl, hcontained⟩).1.1 rfl fault hreply

/-- A run of errands with an audit trail and the same run without one give the same answers and
faults exactly if no errand ends with what escaped from the trail, and nothing escapes from a trail
that is contained.  They then leave the same store, the same source of ids and the same files
behind, but for the file of the trail; every collection of the store lists the same records.  The
events are the same but for one more event after each decision that could not be recorded.  This is
so for every trail in whose place nothing is that a path of the store or of the errands leads to or
passes through. -/
theorem Errand.run_transparent (setup : Setup) (trail : AuditTrail)
    {errands : List (Instant × Errand)} {s : Session}
    (hvacancies : s.store.vacancies.IsClear s.files (trail.Touches s.files))
    (happlications : s.store.applications.IsClear s.files (trail.Touches s.files))
    (herrands : ∀ e ∈ errands, ∀ p ∈ e.2.paths, s.files.IsClear (trail.Touches s.files) p) :
    let bare := run setup errands { s with audit := .off }
    let trailed := run setup errands { s with audit := trail }
    (trailed.1 = bare.1 ↔ ∀ fault, .error fault ∈ trailed.1 → ¬fault.IsEscape)
      ∧ (trail.IsContained → trailed.1 = bare.1)
      ∧ (trailed.1 = bare.1 →
        trailed.2.store = bare.2.store ∧ bare.2.ShowsAlike trailed.2
          ∧ trailed.2.ids = bare.2.ids
          ∧ Tree.SameBut (trail.Touches s.files) bare.2.files trailed.2.files
          ∧ (∀ p, s.files.IsClear (trail.Touches s.files) p →
            trailed.2.files.readIfThere p = bare.2.files.readIfThere p)
          ∧ ∃ attempts, trail.Takes attempts trailed.2.audit
            ∧ Reported s.events bare.2.events attempts trailed.2.events) := by
  -- no step of an errand reaches the places of the trail, so each of them respects the relation
  have hrespected : ∀ e ∈ errands, IsRespected setup e.1 (Shadows.scope trail s.files)
      (Shadows trail s) Fault.IsEscape ∧ e.2.IsWithin (Shadows.scope trail s.files) := fun e he =>
    ⟨Shadows.isRespected setup e.1 trail s, isWithin_scope (herrands e he)⟩
  obtain ⟨hreplies, hlast⟩ := IsRespected.run hrespected
    (.of_isClear hvacancies happlications)
  refine ⟨hreplies, fun hcontained => hreplies.2 fun fault hreply =>
    not_isEscape_of_contained hcontained hreply, fun heq => ?_⟩
  have hshadows := hlast (hreplies.1 heq)
  exact ⟨hshadows.store, hshadows.showsAlike, hshadows.ids, hshadows.files,
    fun p hp => hshadows.files.readIfThere (hshadows.isClear hp), hshadows.told⟩

/-- Fails at the first call, with a text to tell. -/
def hesitant (n : Nat) : Option Failure := if n = 0 then some (.told "disk full") else none

/-- The first decision cannot be recorded, and the second one is. -/
theorem Errand.run_transparent_twice :
    let start := Pipeline.analystSession
    let trail : AuditTrail := .recorder hesitant 0 []
    let bare := run {} twice { start with audit := .off }
    let trailed := run {} twice { start with audit := trail }
    start.store.vacancies.IsClear start.files (trail.Touches start.files)
      ∧ start.store.applications.IsClear start.files (trail.Touches start.files)
      ∧ (∀ e ∈ twice, ∀ p ∈ e.2.paths, start.files.IsClear (trail.Touches start.files) p)
      ∧ ∃ a b r, bare.1 = [.ok (.application a), .ok (.application b)] ∧ trailed.1 = bare.1
        ∧ trailed.2.store = bare.2.store ∧ trailed.2.audit = .recorder hesitant 2 [r]
        ∧ r.applicationId = b.id ∧ .auditFailed a.id "disk full" ∈ trailed.2.events := by
  intro start trail bare trailed
  have hvacancies : start.store.vacancies.IsClear start.files (trail.Touches start.files) := by
    rintro p ⟨⟩
  have happlications : start.store.applications.IsClear start.files
      (trail.Touches start.files) := by
    rintro p ⟨⟩
  have hclear : ∀ e ∈ twice, ∀ p ∈ e.2.paths,
      start.files.IsClear (trail.Touches start.files) p := by
    intro e he p hp
    simp only [twice, List.mem_cons, List.not_mem_nil, or_false, or_self] at he
    rw [he] at hp
    cases hp
  have hcontained : trail.IsContained := by
    intro n how hhow
    rw [hesitant] at hhow
    split at hhow <;> cases hhow
    exact ⟨_, rfl⟩
  obtain ⟨-, hsame, hkept⟩ := run_transparent {} trail hvacancies happlications hclear
  have heq : trailed.1 = bare.1 := hsame hcontained
  obtain ⟨hstore, -⟩ := hkept heq
  -- the two decisions of the run with the trail, one after the other
  let s := { start with audit := trail }
  let second := Pipeline.afterAnalyst s .empty
  have hrun : trailed = _ := run_twice (s := s) rfl rfl hcontained
  have haudit : second.audit = .recorder hesitant 1 [] := by
    show (trail.append _ _).1 = _
    rw [Pipeline.append_analystRuling]
    rfl
  have hfailed : .auditFailed (Pipeline.analystRuling s).application.id "disk full"
      ∈ second.events := by
    refine List.mem_append_right _ (List.mem_cons_of_mem _ ?_)
    rw [Pipeline.append_analystRuling]
    exact List.mem_singleton_self _
  refine ⟨hvacancies, happlications, hclear, (Pipeline.analystRuling s).application,
    (Pipeline.analystRuling second).application, (Pipeline.analystRuling second).record, ?_, heq,
    hstore, ?_, rfl, ?_⟩
  · rw [← heq, hrun]
  · rw [hrun]
    show (second.audit.append _ _).1 = _
    rw [Pipeline.append_analystRuling, haudit]
    rfl
  · rw [hrun]
    exact List.mem_append_left _ (List.mem_append_left _ hfailed)

end Shortlist
