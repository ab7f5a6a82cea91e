import Shortlist.Proofs.Batch.Directory
import Shortlist.Proofs.CommandLine.Output
import Shortlist.Proofs.Pipeline.Transparency

/-!
# Screenings that end in a reported way

Whoever calls the command `screen` should see one of three things: exit code zero, exit code one
with a complaint that says why the screening failed, or exit code two (`IsReported`).  Anything else
is a breakdown.

The contents of the three input files decide which it is (`Screen.run_isReported_iff`).  A
configuration that is not accepted is never reported.  With one that is, the command finishes
exactly if the vacancy file holds a draft and the batch of its vacancy can decide on the file of
applications (`Screen.Finishes`); it complains exactly if the vacancy file holds no draft, for a
reason that has a message (`Screen.Complains`); and otherwise it breaks down.  The store may be in
memory or in a directory, as long as the ids are new in it (`Screen.StoreIsServed`); a directory
without the files of a store will do (`Screen.StoreIsServed.of_absent`).
-/

namespace Shortlist

/-- The ways in which a command can end for its caller: it has finished, it was not usable, or it
complains. -/
def IsReported (outcome : Except Ending Unit) : Prop :=
  exitCode outcome = 0 ∨ exitCode outcome = 2
    ∨ exitCode outcome = 1 ∧ ∃ ending complaint, outcome = .error ending
      ∧ ending.complaint? = some complaint

/-- What is not reported is a breakdown. -/
lemma isReported_iff {outcome : Except Ending Unit} :
    IsReported outcome ↔ ∀ cause, outcome ≠ .error (.broken cause) := by
  constructor
  · rintro (h | h | ⟨-, ending, complaint, rfl, hcomplaint⟩) cause hcause
    · rw [hcause] at h
      cases h
    · rw [hcause] at h
      cases h
    · cases hcause
      cases hcomplaint
  · intro h
    rcases outcome with (_ | message | cause) | _
    · exact .inr (.inl rfl)
    · exact .inr (.inr ⟨rfl, _, _, rfl, rfl⟩)
    · exact absurd rfl (h cause)
    · exact .inl rfl

/-- An outcome that is a success under one condition, the failure with a message under another that
the message meets, and a breakdown under neither. -/
inductive EndsAs (finishes : Prop) (complains : String → Prop) : Except Ending Unit → Prop where
  | finished (hfinishes : finishes) (hcomplains : ∀ message, ¬complains message) :
    EndsAs finishes complains (.ok ())
  | complained (message : String) (hfinishes : ¬finishes)
    (hcomplains : ∀ message', complains message' ↔ message' = message) :
    EndsAs finishes complains (.error (.failed message))
  | broken (cause : Breakdown) (hfinishes : ¬finishes)
    (hcomplains : ∀ message, ¬complains message) :
    EndsAs finishes complains (.error (.broken cause))

namespace EndsAs

variable {finishes : Prop} {complains : String → Prop} {outcome : Except Ending Unit}

lemma isOk_iff (h : EndsAs finishes complains outcome) : outcome = .ok () ↔ finishes := by
  cases h with
  | finished hfinishes => exact iff_of_true rfl hfinishes
  | complained _ hfinishes => exact iff_of_false (by rintro ⟨⟩) hfinishes
  | broken _ hfinishes => exact iff_of_false (by rintro ⟨⟩) hfinishes

lemma isFailed_iff (h : EndsAs finishes complains outcome) (message : String) :
    outcome = .error (.failed message) ↔ complains message := by
  cases h with
  | finished _ hcomplains => exact iff_of_false (by rintro ⟨⟩) (hcomplains message)
  | complained message' _ hcomplains => simp [hcomplains, eq_comm]
  | broken _ _ hcomplains => exact iff_of_false (by rintro ⟨⟩) (hcomplains message)

lemma isReported_iff (h : EndsAs finishes complains outcome) :
    IsReported outcome ↔ finishes ∨ ∃ message, complains message := by
  rw [Shortlist.isReported_iff]
  cases h with
  | finished hfinishes => exact iff_of_true (by rintro _ ⟨⟩) (.inl hfinishes)
  | complained message _ hcomplains =>
    exact iff_of_true (by rintro _ ⟨⟩) (.inr ⟨message, (hcomplains message).2 rfl⟩)
  | broken cause hfinishes hcomplains =>
    refine iff_of_false (fun h => h cause rfl) ?_
    rintro (h | ⟨message, h⟩)
    · exact hfinishes h
    · exact hcomplains message h

end EndsAs

/-- A batch ends alike with an audit trail and without one, if the trail is contained and is clear
of its paths and of its store. -/
lemma Pipeline.exec_runBatch_of_trail {setup : Setup} {now : Instant} {paths : BatchPaths}
    {s : Session} {trail : AuditTrail} (hcontained : trail.IsContained)
    (hvacancies : s.store.vacancies.IsClear s.files (trail.Touches s.files))
    (happlications : s.store.applications.IsClear s.files (trail.Touches s.files))
    (hpaths : ∀ p ∈ [paths.vacancy, paths.applications, paths.output],
      s.files.IsClear (trail.Touches s.files) p) :
    (Action.exec (runBatch setup now paths) { s with audit := trail }).1
      = (Action.exec (runBatch setup now paths) { s with audit := .off }).1 := by
  have hwithin : (Errand.runBatch paths).IsWithin (Shadows.scope trail s.files) :=
    Errand.isWithin_scope hpaths
  exact (((Shadows.isRespected setup now trail s).runBatch hwithin _ _
    (.of_isClear hvacancies happlications)).agrees fun fault h =>
      not_isEscape_of_runBatch hcontained (Prod.ext h rfl)).1

/-- With a trail that is clear of its store and of its paths, too, a batch over a directory comes
back exactly if it can decide on its file of applications and its vacancy has a line. -/
lemma Pipeline.returns_runBatch_of_trail {setup : Setup} {now : Instant} {paths : BatchPaths}
    {defaults : Facts} {draft : VacancyDraft} {content : Text.Bytes} {directory : Path}
    {s t : Session} {trail : AuditTrail} (hcontained : trail.IsContained)
    (h : Reflects directory s t) (hfiles : s.files = t.files)
    (hsetup : setup.IsStandard defaults) (hdefaults : defaults.IsDecoded)
    (hinputs : HasInputs t paths draft content)
    (hids : s.DrawsNewIds (ApplicationsFile.lines content).length)
    (hapart : t.files.resolve paths.applications
      ≠ t.files.resolve (directory.child Store.vacanciesName))
    (hclear : ∀ p ∈ [directory.child Store.vacanciesName, directory.child Store.applicationsName,
      paths.vacancy, paths.applications, paths.output],
        t.files.IsClear (trail.Touches t.files) p) :
    Returns (IsScreenable setup now defaults (t.nextVacancy now draft) content
        ∧ (t.nextVacancy now draft).toValue.IsEncodable)
      (Action.exec (runBatch setup now paths) { t with audit := trail }).1 := by
  have hreturns : Returns (IsScreenable setup now defaults (t.nextVacancy now draft) content
      ∧ (t.nextVacancy now draft).toValue.IsEncodable)
        (Action.exec (runBatch setup now paths) t).1 :=
    returns_runBatch_inDirectory h hfiles hsetup hdefaults hinputs hids hapart
  obtain ⟨_, _, hreflection⟩ := h
  have hoff : { t with audit := .off } = t := by rw [← hreflection.trail']
  rw [List.forall_mem_cons, List.forall_mem_cons] at hclear
  obtain ⟨hvacancies, happlications, hpaths⟩ := hclear
  rw [exec_runBatch_of_trail hcontained ?_ ?_ hpaths, hoff]
  · exact hreturns
  all_goals
    rw [hreflection.store', Store.inDirectory]
    rintro _ ⟨⟩
  · exact hvacancies
  · exact happlications

lemma Fault.ending_of_message {fault : Fault} {message : String}
    (h : fault.message? = some message) : fault.ending = .failed message := by
  rw [ending, h]

lemma Fault.ending_of_isSilent {fault : Fault} (h : fault.IsSilent) :
    fault.ending = .broken (.work fault) := by
  rw [ending, h]

namespace Screen

open Pipeline
open ApplicationsFile (lines)
open Shortlist.Task (exec exec_bind_ok exec_bind_error)

variable {now : Instant} {ids : IdSource} {a : Arguments} {r : ScreenRequest} {c : Config}
  {t opened : Tree} {vacancy content : Text.Bytes} {threshold n : Nat} {directory : Option Path}

/-! ## What is given -/

/-- Both input files of a request can be read, and there is room for its output. -/
structure HasFiles (t : Tree) (r : ScreenRequest) (vacancy content : Text.Bytes) : Prop where
  vacancy : t.read (.ofText r.vacancy) = .ok vacancy
  applications : t.read (.ofText r.applications) = .ok content
  output : t.Accommodates (r.outputPath t)

/-- Directories that are made elsewhere take nothing of this away. -/
lemma HasFiles.of_makeDirectories {p : Path} (h : HasFiles t r vacancy content)
    (hmade : t.makeDirectories p = .ok opened) (hoff : ¬t.IsOn p (t.resolve (r.outputPath t))) :
    HasFiles opened r vacancy content where
  vacancy := Tree.read_makeDirectories hmade h.vacancy
  applications := Tree.read_makeDirectories hmade h.applications
  output := by
    rw [ScreenRequest.outputPath, Tree.resolve_of_here (Tree.here_makeDirectories hmade)]
    exact h.output.of_makeDirectories hmade hoff

/-- Arguments that make a request whose files are there, with the directory of its audit file. -/
structure IsServed (t : Tree) (a : Arguments) (r : ScreenRequest)
    (vacancy content : Text.Bytes) : Prop where
  request : exec (Task.request ScreenRequest.options ScreenRequest.ofArguments a) { tree := t }
    = (.ok r, { tree := t })
  files : HasFiles t r vacancy content
  nameable : (Path.ofText r.output).hasNullCharacter = false
  audit : ∀ path, r.auditLog = some path →
    t.makeDirectories (Path.ofText path).parent = .ok t

/-- A store that takes the records of a batch with so many lines, in the tree in which it has been
opened.  In memory the ids have to be distinct.  A directory is there or can be made, away from the
output; its files, if it has any, mirror a store in memory in which the ids are new; the
applications are not read from them, and the audit trail is clear of them and of the batch.  The
facts that are assumed are ones that JSON can say.  A directory without such files is always one of
these (`StoreIsServed.of_absent`). -/
inductive StoreIsServed (t : Tree) (ids : IdSource) (r : ScreenRequest) (c : Config) (n : Nat) :
    Option Path → Tree → Prop where
  | memory (new : (ids.fresh "vac").2.IsFreshFor n .empty) : StoreIsServed t ids r c n none t
  | directory (directory : Path) (opened : Tree) (mirrored : Session)
    (made : t.makeDirectories directory = .ok opened)
    (off : ¬t.IsOn directory (t.resolve (r.outputPath t)))
    (reflects : Reflects directory mirrored
      { files := opened, store := .inDirectory directory, ids })
    (files : mirrored.files = opened) (new : mirrored.DrawsNewIds n)
    (apart : opened.resolve (.ofText r.applications)
      ≠ opened.resolve (directory.child Store.vacanciesName))
    (clear : ∀ p ∈ [directory.child Store.vacanciesName, directory.child Store.applicationsName,
      .ofText r.vacancy, .ofText r.applications, r.outputPath opened],
        opened.IsClear (r.trail.Touches opened) p)
    (defaults : c.assumed.IsDecoded) :
    StoreIsServed t ids r c n (some directory) opened

/-- A directory in which there are no files of a store yet takes the records of a batch, if there is
room for the files and the ids are distinct. -/
theorem StoreIsServed.of_absent {directory : Path} (hfiles : HasFiles t r vacancy content)
    (made : t.makeDirectories directory = .ok opened)
    (off : ¬t.IsOn directory (t.resolve (r.outputPath t)))
    (habsent : ∀ name ∈ [Store.vacanciesName, Store.applicationsName],
      opened.readIfThere (directory.child name) = .ok none ∧ opened.HasRoom (directory.child name))
    (new : (ids.fresh "vac").2.IsFreshFor n .empty)
    (clear : ∀ p ∈ [directory.child Store.vacanciesName, directory.child Store.applicationsName,
      .ofText r.vacancy, .ofText r.applications, r.outputPath opened],
        opened.IsClear (r.trail.Touches opened) p)
    (defaults : c.assumed.IsDecoded) :
    StoreIsServed t ids r c n (some directory) opened := by
  let mirrored : Session := { files := opened, store := .inMemory, ids }
  obtain ⟨hvacancies, hvacanciesRoom⟩ := habsent Store.vacanciesName (by simp)
  obtain ⟨happlications, happlicationsRoom⟩ := habsent Store.applicationsName (by simp)
  have hreflects : Reflects directory mirrored
      { files := opened, store := .inDirectory directory, ids } :=
    ⟨.empty, .empty, rfl, rfl, .empty hvacancies hvacanciesRoom,
      .empty happlications happlicationsRoom, rfl, rfl, rfl, rfl⟩
  have hnew : mirrored.DrawsNewIds n :=
    ⟨.empty, Session.holds_inMemory mirrored, by simp [Ledger.empty], new⟩
  refine .directory directory opened mirrored made off hreflects rfl hnew (fun heq => ?_) clear
    defaults
  have hfile := Tree.fileAt_of_read (Tree.read_makeDirectories made hfiles.applications)
  rw [Tree.readIfThere_of_placeOf hvacanciesRoom.placeOf, Tree.contentAt, ← heq,
    Tree.item?_of_fileAt hfile] at hvacancies
  cases hvacancies

lemma StoreIsServed.elim_makeDirectories (h : StoreIsServed t ids r c n directory opened) :
    directory.elim (.ok t) t.makeDirectories = .ok opened := by
  cases h with
  | memory => rfl
  | directory _ _ _ made => exact made

lemma StoreIsServed.hasFiles (h : StoreIsServed t ids r c n directory opened)
    (hfiles : HasFiles t r vacancy content) : HasFiles opened r vacancy content := by
  cases h with
  | memory => exact hfiles
  | directory _ _ _ made off => exact hfiles.of_makeDirectories made off

/-- A configuration of a request that a batch can be set up with. -/
structure IsConfigured (t : Tree) (r : ScreenRequest) (c : Config) : Prop where
  config : r.configIn t = .ok c
  threshold : ∃ threshold, Threshold.ofName (thresholdName r c) = .ok threshold
  directory : ∃ directory, c.directory = .ok directory

/-! ## What becomes of it -/

/-- The command finishes over these files: the vacancy file holds a draft, the batch of its vacancy
can decide on the file of applications, and in a directory the vacancy has a line. -/
def Finishes (now : Instant) (ids : IdSource) (c : Config) (vacancy content : Text.Bytes) : Prop :=
  ∃ draft, VacancyDraft.readFile vacancy = .ok draft
    ∧ IsScreenable c.setup now c.assumed
      (draft.register (ids.fresh "vac").1 (timeText now)) content
    ∧ (c.store.backend = .files →
      (draft.register (ids.fresh "vac").1 (timeText now)).toValue.IsEncodable)

/-- The command complains over this vacancy file. -/
def Complains (vacancy : Text.Bytes) (message : String) : Prop :=
  ∃ fault, VacancyDraft.readFile vacancy = .error fault ∧ fault.message? = some message

/-- What it takes to finish with a draft, said of a session with these ids. -/
lemma finishes_iff {draft : VacancyDraft} (hdraft : VacancyDraft.readFile vacancy = .ok draft)
    (hdirectory : c.directory = .ok directory) {s : Session} (hids : s.ids = ids) :
    Finishes now ids c vacancy content
      ↔ IsScreenable c.setup now c.assumed (s.nextVacancy now draft) content
        ∧ (directory ≠ none → (s.nextVacancy now draft).toValue.IsEncodable) := by
  rw [← Config.backend_eq_files_iff hdirectory, Session.nextVacancy, hids]
  constructor
  · rintro ⟨draft', hdraft', h⟩
    cases hdraft.symm.trans hdraft'
    exact h
  · exact fun h => ⟨draft, hdraft, h⟩

lemma run_of_prepare_error {ending : Ending} {scene : Scene}
    (hserved : IsServed t a r vacancy content)
    (h : exec (prepare ids r) { tree := t } = (.error ending, scene)) :
    (Command.run (.screen a) now ids t).1 = .error ending := by
  rw [run_screen, front, bind_assoc, exec_bind_ok hserved.request, exec_bind_error h]

lemma run_of_prepare_ok (now : Instant) {p : Preparation} {scene : Scene}
    (hserved : IsServed t a r vacancy content)
    (h : exec (prepare ids r) { tree := t } = (.ok p, scene)) :
    (Command.run (.screen a) now ids t).1
      = ((Action.exec (Pipeline.runBatch p.setup now p.paths) p.session).1.map fun _ => ()).mapError
          Fault.ending := by
  rw [run_screen, front, bind_assoc, exec_bind_ok hserved.request, exec_bind_ok h]
  cases hbatch : Action.exec (Pipeline.runBatch p.setup now p.paths) p.session with
  | mk outcome s' =>
    cases outcome with
    | ok report =>
      rw [exec_conclude_of_ok hbatch]
      rfl
    | error fault =>
      rw [exec_conclude_of_error hbatch]
      rfl

lemma HasFiles.hasInputs (hfiles : HasFiles t r vacancy content) {draft : VacancyDraft}
    (hdraft : VacancyDraft.readFile vacancy = .ok draft) {s : Session} (hs : s.files = t) :
    HasInputs s (r.paths t) draft content := by
  obtain ⟨document, hdocument, haccepted⟩ := VacancyDraft.readFile_eq_ok.1 hdraft
  subst hs
  exact ⟨⟨vacancy, document, hfiles.vacancy, hdocument, haccepted⟩, hfiles.applications,
    hfiles.output⟩

/-- With a draft, the batch that is prepared comes back exactly if the command finishes, and
otherwise breaks off silently. -/
lemma returns_prepared {draft : VacancyDraft} (hdraft : VacancyDraft.readFile vacancy = .ok draft)
    (hdirectory : c.directory = .ok directory)
    (hstore : StoreIsServed t ids r c (lines content).length directory opened)
    (hfiles : HasFiles opened r vacancy content) {p : Preparation}
    (hp : p = prepared ids opened r c threshold directory) :
    Returns (Finishes now ids c vacancy content)
      (Action.exec (Pipeline.runBatch p.setup now p.paths) p.session).1 := by
  have hsetup : c.setup.IsStandard c.assumed := c.isStandard_setup
  have hids : p.session.ids = ids := by rw [hp, prepared]
  rw [finishes_iff hdraft hdirectory hids]
  -- in memory every record has a line to go by, and over a directory the vacancy needs one
  cases hstore with
  | memory new =>
    have hmemory : { p.session with store := .inMemory } = p.session := by
      rw [hp]
      rfl
    have hnew : p.session.DrawsNewIds (lines content).length := by
      refine ⟨.empty, ?_, by simp [Ledger.empty], hids ▸ new⟩
      rw [← hmemory]
      exact Session.holds_inMemory p.session
    simp only [ne_eq, not_true_eq_false, false_implies, and_true]
    rw [hp] at hnew ⊢
    exact returns_runBatch hsetup (hfiles.hasInputs hdraft rfl) r.isContained_trail hnew
  | directory directory opened mirrored made off reflects files new apart clear defaults =>
    simp only [ne_eq, reduceCtorEq, not_false_eq_true, true_implies]
    rw [hp]
    exact returns_runBatch_of_trail (t := { files := opened, store := .inDirectory directory, ids })
      r.isContained_trail reflects files hsetup defaults (hfiles.hasInputs hdraft rfl) new
        apart clear

/-- A configuration that is not accepted breaks the command down. -/
lemma run_of_config_error (now : Instant) (ids : IdSource)
    (hserved : IsServed t a r vacancy content) {fault : ConfigFileFault}
    (hconfig : r.configIn t = .error fault) :
    (Command.run (.screen a) now ids t).1 = .error (.broken (.config fault)) := by
  let scene : Scene := { tree := t }
  have hprepare : exec (prepare ids r) scene = (.error (.broken (.config fault)), scene) :=
    exec_prepare_of_config_error hserved.nameable hconfig
  exact run_of_prepare_error hserved hprepare

/-- Without a configuration that a batch can be set up with the command breaks down. -/
lemma run_of_not_isConfigured (now : Instant) (ids : IdSource)
    (hserved : IsServed t a r vacancy content) (h : ¬∃ c, IsConfigured t r c) :
    ∃ cause, (Command.run (.screen a) now ids t).1 = .error (.broken cause) := by
  let scene : Scene := { tree := t }
  cases hconfig : r.configIn scene.tree with
  | error fault => exact ⟨_, run_of_config_error now ids hserved hconfig⟩
  | ok c =>
    cases hthreshold : Threshold.ofName (thresholdName r c) with
    | error name =>
      have hprepare : exec (prepare ids r) scene = (.error (.broken (.logLevel name)), scene) :=
        exec_prepare_of_reserved hserved.nameable hconfig hthreshold
      exact ⟨_, run_of_prepare_error hserved hprepare⟩
    | ok threshold =>
      cases hdirectory : c.directory with
      | error fault =>
        have hprepare : exec (prepare ids r) scene
            = (.error (.broken (.wiring fault)), { scene with renderer := c.log.renderer }) :=
          exec_prepare_of_directory_error hserved.nameable hconfig hthreshold hdirectory
        exact ⟨_, run_of_prepare_error hserved hprepare⟩
      | ok directory => exact absurd ⟨c, hconfig, ⟨threshold, hthreshold⟩, directory, hdirectory⟩ h

/-- With a configuration, the command finishes, complains, or breaks down, each under its own
condition. -/
lemma run_of_isConfigured (now : Instant) (hserved : IsServed t a r vacancy content)
    (hconfigured : IsConfigured t r c)
    (hstore : ∀ directory, c.directory = .ok directory →
      ∃ opened, StoreIsServed t ids r c (lines content).length directory opened) :
    EndsAs (Finishes now ids c vacancy content) (Complains vacancy)
      (Command.run (.screen a) now ids t).1 := by
  obtain ⟨hconfig, ⟨threshold, hthreshold⟩, directory, hdirectory⟩ := hconfigured
  obtain ⟨opened, hopened⟩ := hstore directory hdirectory
  have hfiles := hopened.hasFiles hserved.files
  let scene : Scene := { tree := t }
  have hprepare : exec (prepare ids r) scene = (.ok (prepared ids opened r c threshold directory),
      { scene with renderer := c.log.renderer, tree := opened }) :=
    exec_prepare hserved.nameable hconfig hthreshold hdirectory hopened.elim_makeDirectories
      hserved.audit
  have hrun := run_of_prepare_ok now hserved hprepare
  -- without a draft the applications are not even read, and with one every fault is silent
  cases hdraft : VacancyDraft.readFile vacancy with
  | error fault =>
    have hfinishes : ¬Finishes now ids c vacancy content := by
      rintro ⟨draft, hdraft', -⟩
      cases hdraft.symm.trans hdraft'
    let p := prepared ids opened r c threshold directory
    have hbatch : Action.exec (Pipeline.runBatch p.setup now p.paths) p.session
        = (.error fault, p.session) := exec_runBatch_of_refused hfiles.vacancy hdraft
    rw [hbatch] at hrun
    have hcomplains (message : String) :
        Complains vacancy message ↔ fault.message? = some message := by
      simp [Complains, hdraft]
    rw [hrun]
    cases hmessage : fault.message? with
    | some message =>
      dsimp only [Except.map, Except.mapError]
      rw [Fault.ending_of_message hmessage]
      exact .complained message hfinishes fun message' => by simp [hcomplains, hmessage, eq_comm]
    | none =>
      dsimp only [Except.map, Except.mapError]
      rw [Fault.ending_of_isSilent hmessage]
      exact .broken _ hfinishes fun message => by simp [hcomplains, hmessage]
  | ok draft =>
    have hcomplains (message : String) : ¬Complains vacancy message := by
      simp [Complains, hdraft]
    rw [hrun]
    rcases returns_prepared hdraft hdirectory hopened hfiles rfl with
      ⟨hfinishes, report, hbatch⟩ | ⟨hfinishes, fault, hbatch, hsilent⟩
    · rw [hbatch]
      exact .finished hfinishes hcomplains
    · rw [hbatch]
      dsimp only [Except.map, Except.mapError]
      rw [Fault.ending_of_isSilent hsilent]
      exact .broken _ hfinishes hcomplains

/-- The contents of the three input files decide how the command ends. -/
lemma endsAs_run (now : Instant) (ids : IdSource) (hserved : IsServed t a r vacancy content)
    (hstore : ∀ c directory, r.configIn t = .ok c → c.directory = .ok directory →
      ∃ opened, StoreIsServed t ids r c (lines content).length directory opened) :
    EndsAs (∃ c, IsConfigured t r c ∧ Finishes now ids c vacancy content)
      (fun message => (∃ c, IsConfigured t r c) ∧ Complains vacancy message)
      (Command.run (.screen a) now ids t).1 := by
  by_cases hconfigured : ∃ c, IsConfigured t r c
  · obtain ⟨c, hc⟩ := hconfigured
    have hfinishes : (∃ c, IsConfigured t r c ∧ Finishes now ids c vacancy content)
        ↔ Finishes now ids c vacancy content := by
      refine ⟨?_, fun h => ⟨c, hc, h⟩⟩
      rintro ⟨c', hc', h⟩
      cases hc.config.symm.trans hc'.config
      exact h
    have hcomplains (message : String) :
        (∃ c, IsConfigured t r c) ∧ Complains vacancy message ↔ Complains vacancy message :=
      and_iff_right ⟨c, hc⟩
    simp only [hfinishes, hcomplains]
    exact run_of_isConfigured now hserved hc fun directory => hstore c directory hc.config
  · obtain ⟨cause, hrun⟩ := run_of_not_isConfigured now ids hserved hconfigured
    rw [hrun]
    refine .broken cause ?_ fun message h => hconfigured h.1
    rintro ⟨c, hc, -⟩
    exact hconfigured ⟨c, hc⟩

/-- How a screening ends for its caller, whatever its three input files hold.  It is reported
exactly if its configuration is accepted and either it finishes or its vacancy file is refused with
a message.  A configuration that is not accepted breaks the command down, with exit code one and no
complaint. -/
theorem run_isReported_iff (now : Instant) (ids : IdSource)
    (hserved : IsServed t a r vacancy content)
    (hstore : ∀ c directory, r.configIn t = .ok c → c.directory = .ok directory →
      ∃ opened, StoreIsServed t ids r c (lines content).length directory opened) :
    (IsReported (Command.run (.screen a) now ids t).1 ↔ ∃ c, IsConfigured t r c
        ∧ (Finishes now ids c vacancy content ∨ ∃ message, Complains vacancy message))
      ∧ ((Command.run (.screen a) now ids t).1 = .ok ()
        ↔ ∃ c, IsConfigured t r c ∧ Finishes now ids c vacancy content)
      ∧ (∀ message, (Command.run (.screen a) now ids t).1 = .error (.failed message)
        ↔ (∃ c, IsConfigured t r c) ∧ Complains vacancy message)
      ∧ ∀ fault, r.configIn t = .error fault →
        (Command.run (.screen a) now ids t).1 = .error (.broken (.config fault)) := by
  have hends := endsAs_run now ids hserved hstore
  refine ⟨?_, hends.isOk_iff, hends.isFailed_iff,
    fun fault hconfig => run_of_config_error now ids hserved hconfig⟩
  rw [hends.isReported_iff]
  constructor
  · rintro (⟨c, hc, hfinishes⟩ | ⟨message, ⟨c, hc⟩, hcomplains⟩)
    · exact ⟨c, hc, .inl hfinishes⟩
    · exact ⟨c, hc, .inr ⟨message, hcomplains⟩⟩
  · rintro ⟨c, hc, hfinishes | ⟨message, hcomplains⟩⟩
    · exact .inl ⟨c, hc, hfinishes⟩
    · exact .inr ⟨message, ⟨c, hc⟩, hcomplains⟩

/-! ## Two screenings of two lines -/

lemma isServed_pair :
    IsServed pairBatch.files pairArguments pairRequest analystFile pairLines where
  request := exec_request_pair
  files := ⟨rfl, rfl, ⟨rfl, rfl, by decide⟩, [], rfl, rfl⟩
  nameable := rfl
  audit := by rintro path ⟨⟩

lemma isConfigured_pair : IsConfigured pairBatch.files pairRequest {} :=
  ⟨rfl, ⟨20, rfl⟩, none, rfl⟩

lemma storeIsServed_pair :
    StoreIsServed pairBatch.files {} pairRequest {} (lines pairLines).length none
      pairBatch.files := by
  have hnew : (({} : IdSource).fresh "vac").2.IsFreshFor 2 .empty := by
    rw [IdSource.IsFreshFor]
    decide +kernel
  rw [lines_pairLines]
  exact .memory hnew

lemma finishes_pair : Finishes analystDay {} {} analystFile pairLines := by
  have hdraft : VacancyDraft.readFile analystFile = .ok analystDraft :=
    VacancyDraft.readFile_eq_ok.2 ⟨_, readVacancyFile_analyst, rfl⟩
  refine ⟨analystDraft, hdraft, ⟨?_, isHarmless_pairLines, ?_⟩, ?_⟩
  · rw [pairLines, Text.decodeUtf8_encodeUtf8]
  · exact length_decidedLines_pair ▸ by decide
  · rintro ⟨⟩

/-- The files of the two lines, and a configuration that is no text. -/
def muddledFiles : Tree := ⟨[], (["config.yaml"], .file [0xff]) :: pairBatch.files.items⟩

/-- The arguments of the two lines, with this configuration. -/
def muddledArguments : Arguments where
  options := pairArguments.options ++ [("--config", "/config.yaml")]

/-- Their request. -/
def muddledRequest : ScreenRequest := { pairRequest with config := some "/config.yaml" }

lemma isServed_muddled :
    IsServed muddledFiles muddledArguments muddledRequest analystFile pairLines where
  request := rfl
  files := ⟨rfl, rfl, ⟨rfl, rfl, by decide⟩, [], rfl, rfl⟩
  nameable := rfl
  audit := by rintro path ⟨⟩

/-- The screening of the two lines finishes; with the configuration that is no text it is not
reported. -/
theorem run_isReported_pair :
    IsServed pairBatch.files pairArguments pairRequest analystFile pairLines
      ∧ (∀ c directory, pairRequest.configIn pairBatch.files = .ok c → c.directory = .ok directory →
        ∃ opened, StoreIsServed pairBatch.files {} pairRequest c (lines pairLines).length directory
          opened)
      ∧ (Command.run (.screen pairArguments) analystDay {} pairBatch.files).1 = .ok ()
      ∧ IsReported (Command.run (.screen pairArguments) analystDay {} pairBatch.files).1
      ∧ IsServed muddledFiles muddledArguments muddledRequest analystFile pairLines
      ∧ ¬IsReported (Command.run (.screen muddledArguments) analystDay {} muddledFiles).1 := by
  have hstore (c : Config) (directory : Option Path)
      (hconfig : pairRequest.configIn pairBatch.files = .ok c)
      (hdirectory : c.directory = .ok directory) : ∃ opened,
        StoreIsServed pairBatch.files {} pairRequest c (lines pairLines).length directory
          opened := by
    cases hconfig
    cases hdirectory
    exact ⟨_, storeIsServed_pair⟩
  have hmuddled (c : Config) : muddledRequest.configIn muddledFiles ≠ .ok c := by
    rintro ⟨⟩
  obtain ⟨hreported, hfinished, -, -⟩ := run_isReported_iff analystDay {} isServed_pair hstore
  obtain ⟨hreported', -, -, -⟩ := run_isReported_iff analystDay {} isServed_muddled
    fun c _ hconfig => absurd hconfig (hmuddled c)
  refine ⟨isServed_pair, hstore, hfinished.2 ⟨{}, isConfigured_pair, finishes_pair⟩,
    hreported.2 ⟨{}, isConfigured_pair, .inl finishes_pair⟩, isServed_muddled, ?_⟩
  rw [hreported']
  rintro ⟨c, hc, -⟩
  exact hmuddled c hc.config

end Screen

end Shortlist
