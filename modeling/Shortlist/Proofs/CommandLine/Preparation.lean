import Shortlist.Proofs.Batch.Entries
import Shortlist.Proofs.CommandLine.Task
import Shortlist.Proofs.Files.Presence
import Shortlist.Proofs.Application

/-!
# Before the batch

The command `screen` prepares a batch and then runs it (`Screen.run_eq`).  The configuration decides
on the collaborators (`Config.setup`) and on the store (`Config.directory`); wiring fails over a
configuration that has been accepted for no other reason than a path without bytes
(`Wiring.ofSettings_toSettings`).

The preparation reads the configuration and makes directories.  Whether it succeeds or not, every
file is as it was, and nothing has been printed (`Screen.isPreparatory_prepare`).

How it ends can be said from the arguments and the files that are there
(`Screen.exec_prepare_of_config_error` and the lemmas after it), one cause after the other in the
order in which they are looked for.  If there is none, the batch is the one that `Screen.prepared`
describes (`Screen.exec_prepare`).
-/

namespace Shortlist

/-! ## What a configuration asks for -/

namespace Config

/-- The facts that are assumed under a configuration: copies of its own, or the usual ones. -/
def assumed (c : Config) : Facts := (c.defaults.map Facts.copied).getD .usual

/-- The collaborators that a configuration asks for. -/
def setup (c : Config) : Setup where
  extractor := .standard c.assumed
  separator := some (c.separator.getD "; ")

/-- What settings say about the pipeline, or nothing. -/
def pipelineSection (c : Config) : Value :=
  match c.separator with
  | none => .mapping []
  | some separator => .record [("feedback_separator", .text separator)]

lemma isStandard_setup (c : Config) : c.setup.IsStandard c.assumed :=
  ⟨rfl, by simp [setup], rfl⟩

/-- The directory of the store that a configuration asks for, if it is one in files. -/
def directory (c : Config) : Except WiringFault (Option Path) :=
  match c.store.backend, c.store.path with
  | .memory, _ => .ok none
  | .files, none => .ok (some (.ofText Wiring.defaultDirectory))
  | .files, some path =>
    if path.isEmpty then .ok (some (.ofText Wiring.defaultDirectory))
    else ((Path.ofPoints path).mapError .pathUnencodable).map some

/-- A store is in a directory exactly if the configuration puts it into files. -/
lemma backend_eq_files_iff {c : Config} {directory : Option Path}
    (h : c.directory = .ok directory) :
    c.store.backend = .files ↔ directory ≠ none := by
  rw [Config.directory] at h
  split at h
  · rename_i hmemory
    cases h
    simp [hmemory]
  · rename_i hfiles _
    cases h
    simp [hfiles]
  · rename_i path hfiles _
    split at h
    · cases h
      simp [hfiles]
    · obtain ⟨_, -, rfl⟩ := Except.map_eq_ok.1 h
      simp [hfiles]

end Config

/-- The store in a directory, or in memory. -/
def Store.ofDirectory : Option Path → Store
  | none => .inMemory
  | some directory => .inDirectory directory

/-- Nothing in settings comes round to what it stands in, since the facts are copies. -/
lemma Config.opened_toSettings (c : Config) : c.toSettings.opened = c.toSettings := by
  obtain ⟨separator, defaults, ⟨backend, path⟩, log⟩ := c
  refine Value.opened_record ?_
  rw [List.forall_mem_append, List.forall_mem_append]
  refine ⟨⟨?_, ?_⟩, ?_⟩
  · cases separator with
    | none => exact List.forall_mem_nil _
    | some separator => exact List.forall_mem_singleton.2 rfl
  · cases defaults with
    | none => exact List.forall_mem_nil _
    | some facts =>
      exact List.forall_mem_singleton.2
        (Value.isClosed_record (List.forall_mem_singleton.2 facts.isClosed_copied.toValue))
  · cases backend with
    | memory => exact List.forall_mem_nil _
    | files => cases path <;> exact List.forall_mem_singleton.2 rfl

namespace Wiring

lemma readDefaults_record {facts : Facts} (h : facts.IsClosed) :
    readDefaults (.record [("defaults", facts.toValue)]) = .ok facts := by
  have hget : Entries.get? [(.name "defaults", facts.toValue)] "defaults" = some facts.toValue := by
    simp [Entries.get?]
  rw [readDefaults, Value.opened_record (List.forall_mem_singleton.2 h.toValue)]
  simp only [Value.record, sectionEntries, List.map_cons, List.map_nil, bind, Except.bind, hget]
  split
  · rename_i h
    cases h
  · rename_i h
    cases h
  · rename_i h
    cases h
    rw [h.opened_toValue, Facts.read_toValue]
    rfl

lemma readDirectory_record (path : Option Text) :
    readDirectory (.record (("backend", .text Backend.files.name) ::
        match path with
        | none => []
        | some p => [("path", .text p)]))
      = Config.directory { store := ⟨.files, path⟩ } := by
  cases path with
  | none => rfl
  | some p =>
    have hget := Entries.get?_map [("backend", .text Backend.files.name), ("path", .text p)]
    have hbackend : Entries.get? [(.name "backend", .text Backend.files.name),
        (.name "path", .text p)] "backend" = some (.text Backend.files.name) := hget "backend"
    have hpath : Entries.get? [(.name "backend", .text Backend.files.name), (.name "path", .text p)]
        "path" = some (.text p) := hget "path"
    simp only [readDirectory, Value.record, sectionEntries, List.map_cons, List.map_nil, bind,
      Except.bind, hpath, hbackend, Config.directory, Option.getD_some, Value.isEmpty]
    cases p.isEmpty with
    | true => rfl
    | false => cases Path.ofPoints p <;> rfl

lemma readSeparator_record (separator : Text) :
    readSeparator (.record [("feedback_separator", .text separator)]) = .ok (.text separator) := by
  have hget : Entries.get? [(.name "feedback_separator", .text separator)] "feedback_separator"
      = some (.text separator) :=
    Entries.get?_map [("feedback_separator", .text separator)] "feedback_separator"
  simp only [readSeparator, Value.record, sectionEntries, List.map_cons, List.map_nil, bind,
    Except.bind, hget]
  rfl

lemma readSeparator_pipelineSection (c : Config) :
    readSeparator c.pipelineSection = .ok (.text (c.separator.getD "; ")) := by
  rw [Config.pipelineSection]
  cases c.separator with
  | none => rfl
  | some separator => exact readSeparator_record separator

/-- What the settings of a configuration say about each of their sections. -/
lemma sections_toSettings (c : Config) :
    ∃ es, c.toSettings = .mapping es
      ∧ readDefaults (settingsSection es "extraction") = .ok c.assumed
      ∧ readDirectory (settingsSection es "store") = c.directory
      ∧ settingsSection es "pipeline" = c.pipelineSection := by
  obtain ⟨separator, defaults, ⟨backend, path⟩, log⟩ := c
  refine ⟨_, rfl, ?_, ?_, ?_⟩
  all_goals rw [settingsSection, Entries.get?_map]
  · cases defaults with
    | none => cases separator <;> cases backend <;> rfl
    | some facts => cases separator <;> cases backend <;>
      exact readDefaults_record facts.isClosed_copied
  · cases backend with
    | memory => cases separator <;> cases defaults <;> rfl
    | files => cases separator <;> cases defaults <;> exact readDirectory_record path
  · cases separator <;> cases defaults <;> cases backend <;> rfl

/-- A configuration is wired, unless the path of its store has no bytes. -/
theorem ofSettings_toSettings (c : Config) :
    ofSettings c.toSettings = c.directory.map fun directory =>
      { pipeline := c.pipelineSection, defaults := c.assumed, directory } := by
  obtain ⟨es, hes, hdefaults, hdirectory, hpipeline⟩ := sections_toSettings c
  rw [ofSettings, c.opened_toSettings, hes]
  simp only [bind, Except.bind, hdefaults, hdirectory, hpipeline]
  cases c.directory <;> rfl

/-- The directory of the store is the only thing over which a configuration that is wired can still
fail. -/
lemma assemble_eq {c : Config} {w : Wiring} {files : Tree}
    (hseparator : readSeparator w.pipeline = .ok (.text (c.separator.getD "; ")))
    (hdefaults : w.defaults = c.assumed) :
    w.assemble files = ((w.openStore files).mapError .obstructed).map fun opened =>
      (c.setup, opened) := by
  rw [assemble]
  cases w.openStore files with
  | error o => rfl
  | ok opened =>
    obtain ⟨store, files⟩ := opened
    simp only [Except.mapError, bind, Except.bind, separator, hseparator, Config.setup, hdefaults]
    rfl

end Wiring

/-! ## The parts of the command -/

/-- A batch that has been prepared. -/
structure Preparation where
  paths : BatchPaths
  threshold : Nat
  setup : Setup
  session : Session

namespace ScreenRequest

/-- The trail of a request. -/
def trail (r : ScreenRequest) : AuditTrail :=
  match r.auditLog with
  | none => .off
  | some path => .file (.ofText path)

/-- Nothing escapes from it. -/
lemma isContained_trail (r : ScreenRequest) : r.trail.IsContained := by
  rw [trail]
  split
  · exact AuditTrail.isContained_off
  · exact AuditTrail.isContained_file _

/-- The path of the output, from the root. -/
def outputPath (r : ScreenRequest) (t : Tree) : Path := Tree.absolute (t.resolve (.ofText r.output))

/-- The paths of the batch of a request. -/
def paths (r : ScreenRequest) (t : Tree) : BatchPaths :=
  ⟨.ofText r.vacancy, .ofText r.applications, r.outputPath t⟩

lemma paths_of_here {t t' : Tree} (h : t'.here = t.here) (r : ScreenRequest) :
    r.paths t' = r.paths t := by
  rw [paths, paths, outputPath, outputPath, Tree.resolve_of_here h]

/-- The configuration of a request. -/
def configIn (r : ScreenRequest) (t : Tree) : Except ConfigFileFault Config :=
  match r.config with
  | none => .ok {}
  | some path => Config.readFile t (.ofText path)

end ScreenRequest

namespace Screen

open Shortlist.Task (exec exec_bind exec_bind_ok exec_bind_error exec_bind_eq_ok)

variable {now : Instant} {ids : IdSource} {a : Arguments} {r : ScreenRequest} {c : Config}
  {p : Preparation} {scene scene' : Scene} {ending : Ending}

/-- The work of a request before its batch. -/
def prepare (ids : IdSource) (r : ScreenRequest) : Task Preparation := do
  let paths ← batchPaths r
  let config ← readConfig r.config
  let threshold ← Task.attempt .logLevel (Threshold.ofName (thresholdName r config))
  modify fun scene => { scene with renderer := config.log.renderer }
  let wiring ← Task.attempt .wiring (Wiring.ofSettings config.toSettings)
  let audit ← openTrail r
  let (setup, store) ← assemble wiring
  let files ← Task.tree
  return ⟨paths, threshold, setup, { files, store, ids, audit }⟩

/-- The work of a request from its batch on. -/
def conclude (now : Instant) (p : Preparation) : Task Unit := do
  let report ← runBatch now p.setup p.paths p.threshold p.session
  Task.print (summary report p.paths.output)

theorem run_eq (now : Instant) (ids : IdSource) (a : Arguments) :
    run now ids a = Task.request ScreenRequest.options ScreenRequest.ofArguments a
      >>= fun r => prepare ids r >>= conclude now := by
  simp only [run, prepare, conclude, bind_assoc, pure_bind]

/-! ## What the preparation leaves behind -/

/-- Work before a batch: it changes no file and prints nothing, and it ends early or well. -/
structure IsPreparatory {α : Type} (task : Task α) : Prop where
  files : ∀ scene, Tree.SameFiles scene.tree (exec task scene).2.tree
  printed : ∀ scene, (exec task scene).2.printed = scene.printed
  early : ∀ scene ending, (exec task scene).1 = .error ending → ending.IsEarly

section

variable {α β : Type}

lemma IsPreparatory.bind {x : Task α} {f : α → Task β} (hx : IsPreparatory x)
    (hf : ∀ a, IsPreparatory (f a)) : IsPreparatory (x >>= f) := by
  constructor
  all_goals intro scene
  all_goals
    have hfiles := hx.files scene
    have hprinted := hx.printed scene
    have hearly := hx.early scene
    rw [exec_bind]
    generalize exec x scene = first at hfiles hprinted hearly ⊢
    obtain ⟨ending | a, scene₁⟩ := first
  · exact hfiles
  · exact hfiles.trans ((hf a).files scene₁)
  · exact hprinted
  · exact ((hf a).printed scene₁).trans hprinted
  · rintro _ ⟨⟩
    exact hearly ending rfl
  · exact (hf a).early scene₁

lemma isPreparatory_of_isLook {x : Task α} (hx : x.IsLook) : IsPreparatory x where
  files scene := by
    rw [hx.scene]
    exact .refl _
  printed scene := by rw [hx.scene]
  early := hx.early

lemma isPreparatory_pure (a : α) : IsPreparatory (pure a) :=
  isPreparatory_of_isLook (Task.isLook_pure a)

lemma isPreparatory_changeTree {change : Tree → Except Obstructed Tree}
    (hchange : ∀ t t', change t = .ok t' → Tree.SameFiles t t') :
    IsPreparatory (Task.changeTree change) := by
  constructor
  all_goals
    intro scene
    rw [Task.exec_changeTree]
    split
  · rename_i tree htree
    exact hchange _ _ htree
  · exact .refl _
  · rfl
  · rfl
  · rintro ending ⟨⟩
  · rintro ending ⟨⟩
    trivial

end

lemma isLook_batchPaths (r : ScreenRequest) : (batchPaths r).IsLook :=
  (Task.isLook_absolute _).bind fun _ => Task.isLook_pure _

lemma isLook_readConfig (path : Option String) : (readConfig path).IsLook := by
  cases path with
  | none => exact Task.isLook_pure _
  | some path => exact Task.isLook_tree.bind fun t => Task.isLook_attempt (fun _ => by trivial) _

lemma isPreparatory_openTrail (r : ScreenRequest) : IsPreparatory (openTrail r) := by
  rw [openTrail]
  split
  · exact isPreparatory_pure _
  · exact (isPreparatory_changeTree fun _ _ => Tree.sameFiles_makeDirectories).bind
      fun _ => isPreparatory_pure _

lemma exec_assemble (w : Wiring) (scene : Scene) :
    exec (assemble w) scene = match w.assemble scene.tree with
      | .ok (setup, store, files) => (.ok (setup, store), { scene with tree := files })
      | .error fault => (.error (.broken (.wiring fault)), scene) := by
  rw [assemble, exec_bind_ok (Task.exec_tree scene), exec_bind, Task.exec_attempt]
  cases w.assemble scene.tree <;> rfl

/-- A store is opened by making its directory. -/
lemma openStore_eq (w : Wiring) (t : Tree) :
    w.openStore t = (w.directory.elim (.ok t) t.makeDirectories).map
      fun t' => (.ofDirectory w.directory, t') := by
  rw [Wiring.openStore]
  cases w.directory <;> rfl

lemma sameFiles_openStore {w : Wiring} {t t' : Tree} {store : Store}
    (h : w.openStore t = .ok (store, t')) :
    store = .ofDirectory w.directory ∧ Tree.SameFiles t t' := by
  rw [openStore_eq] at h
  obtain ⟨files, hmade, hopened⟩ := Except.map_eq_ok.1 h
  cases hopened
  refine ⟨rfl, ?_⟩
  cases hdirectory : w.directory with
  | none =>
    rw [hdirectory] at hmade
    cases hmade
    exact .refl t
  | some directory =>
    rw [hdirectory] at hmade
    exact Tree.sameFiles_makeDirectories hmade

/-- What a wiring assembles after its directory has been made. -/
lemma assemble_ok {w : Wiring} {t t' : Tree} {setup : Setup} {store : Store}
    (h : w.assemble t = .ok (setup, store, t')) : w.openStore t = .ok (store, t') := by
  rw [Wiring.assemble] at h
  obtain ⟨opened, hopened, h⟩ := Except.bind_eq_ok.1 h
  obtain ⟨separator, -, h⟩ := Except.bind_eq_ok.1 h
  cases h
  exact Except.mapError_eq_ok.1 hopened

lemma isPreparatory_assemble (w : Wiring) : IsPreparatory (assemble w) := by
  constructor
  all_goals
    intro scene
    rw [exec_assemble]
    split
  · rename_i hassembled
    exact (sameFiles_openStore (assemble_ok hassembled)).2
  · exact .refl _
  · rfl
  · rfl
  · rintro ending ⟨⟩
  · rintro ending ⟨⟩
    trivial

lemma isPreparatory_modify (renderer : Renderer) :
    IsPreparatory (modify fun scene => { scene with renderer }) where
  files _ := .refl _
  printed _ := rfl
  early := by rintro scene ending ⟨⟩

lemma isPreparatory_prepare (ids : IdSource) (r : ScreenRequest) :
    IsPreparatory (prepare ids r) :=
  (isPreparatory_of_isLook (isLook_batchPaths r)).bind fun _ =>
    (isPreparatory_of_isLook (isLook_readConfig _)).bind fun _ =>
      (isPreparatory_of_isLook (Task.isLook_attempt (fun _ => by trivial) _)).bind fun _ =>
        (isPreparatory_modify _).bind fun _ =>
          (isPreparatory_of_isLook (Task.isLook_attempt (fun _ => by trivial) _)).bind fun _ =>
            (isPreparatory_openTrail r).bind fun _ => (isPreparatory_assemble _).bind fun _ =>
              isPreparatory_of_isLook (Task.isLook_tree.bind fun _ => Task.isLook_pure _)

/-! ## What is prepared -/

/-- A batch as a request and its configuration ask for it. -/
structure IsPrepared (ids : IdSource) (t : Tree) (r : ScreenRequest) (c : Config)
    (p : Preparation) : Prop where
  config : r.configIn t = .ok c
  threshold : Threshold.ofName (thresholdName r c) = .ok p.threshold
  setup : p.setup = c.setup
  paths : p.paths = r.paths t
  ids : p.session.ids = ids
  audit : p.session.audit = r.trail
  store : ∃ directory, c.directory = .ok directory ∧ p.session.store = .ofDirectory directory
  files : Tree.SameFiles t p.session.files

lemma exec_batchPaths_ok {paths : BatchPaths}
    (h : exec (batchPaths r) scene = (.ok paths, scene')) :
    paths = r.paths scene.tree
      ∧ scene' = scene := by
  rw [batchPaths, Task.absolute] at h
  split at h
  · cases h
  · cases h
    exact ⟨rfl, rfl⟩

lemma exec_readConfig (r : ScreenRequest) (scene : Scene) :
    exec (readConfig r.config) scene
      = ((r.configIn scene.tree).mapError fun fault => .broken (.config fault), scene) := by
  rw [ScreenRequest.configIn]
  cases r.config with
  | none => rfl
  | some path =>
    rw [readConfig, exec_bind_ok (Task.exec_tree scene), Task.exec_attempt]

lemma exec_attempt_ok {α ε : Type} {cause : ε → Breakdown} {outcome : Except ε α} {b : α}
    (h : exec (Task.attempt cause outcome) scene = (.ok b, scene')) :
    outcome = .ok b ∧ scene' = scene := by
  cases outcome with
  | ok b' =>
    cases h
    exact ⟨rfl, rfl⟩
  | error fault => cases h

lemma exec_openTrail_ok {trail : AuditTrail} (h : exec (openTrail r) scene = (.ok trail, scene')) :
    trail = r.trail := by
  rw [openTrail] at h
  rw [ScreenRequest.trail]
  cases hlog : r.auditLog with
  | none =>
    rw [hlog] at h
    cases h
    rfl
  | some path =>
    rw [hlog] at h
    obtain ⟨_, scene₁, -, h⟩ := exec_bind_eq_ok.1 h
    cases h
    rfl

/-- A preparation that succeeds has prepared what the request and its configuration ask for. -/
lemma isPrepared_of_exec (h : exec (prepare ids r) scene = (.ok p, scene')) :
    ∃ c, IsPrepared ids scene.tree r c p := by
  have hfiles := (isPreparatory_prepare ids r).files scene
  rw [h] at hfiles
  -- step by step, each with what its success says about the request
  rw [prepare, exec_bind_eq_ok] at h
  obtain ⟨paths, _, hpaths, h⟩ := h
  obtain ⟨rfl, rfl⟩ := exec_batchPaths_ok hpaths
  rw [exec_bind_eq_ok] at h
  obtain ⟨c, _, hread, h⟩ := h
  rw [exec_readConfig] at hread
  obtain ⟨hconfig, rfl⟩ := Prod.mk.inj hread
  rw [exec_bind_eq_ok] at h
  obtain ⟨threshold, _, hnamed, h⟩ := h
  obtain ⟨hthreshold, rfl⟩ := exec_attempt_ok hnamed
  rw [exec_bind_ok (Task.exec_modify _ _), exec_bind_eq_ok] at h
  obtain ⟨w, _, hwired, h⟩ := h
  obtain ⟨hwiring, rfl⟩ := exec_attempt_ok hwired
  rw [exec_bind_eq_ok] at h
  obtain ⟨trail, scene₁, htrail, h⟩ := h
  obtain rfl := exec_openTrail_ok htrail
  rw [exec_bind_eq_ok] at h
  obtain ⟨⟨setup, store⟩, scene₂, hassemble, h⟩ := h
  rw [exec_assemble] at hassemble
  rw [Wiring.ofSettings_toSettings] at hwiring
  obtain ⟨directory, hdirectory, rfl⟩ := Except.map_eq_ok.1 hwiring
  split at hassemble
  · rename_i setup' store' files hassembled
    cases hassemble
    have hopened := assemble_ok hassembled
    rw [Wiring.assemble_eq (Wiring.readSeparator_pipelineSection c) rfl, hopened] at hassembled
    cases hassembled
    rw [exec_bind_ok (Task.exec_tree _), Task.exec_pure] at h
    cases h
    exact ⟨c, Except.mapError_eq_ok.1 hconfig, hthreshold, rfl, rfl, rfl, rfl,
      ⟨directory, hdirectory, (sameFiles_openStore hopened).1⟩, hfiles⟩
  · cases hassemble

/-! ## How a preparation ends -/

section

variable {threshold : Nat}

lemma exec_batchPaths (houtput : (Path.ofText r.output).hasNullCharacter = false) (scene : Scene) :
    exec (batchPaths r) scene
      = (.ok (r.paths scene.tree), scene) := by
  rw [batchPaths, Task.absolute, houtput]
  rfl

/-- A preparation breaks off over a configuration that cannot be read. -/
lemma exec_prepare_of_config_error (houtput : (Path.ofText r.output).hasNullCharacter = false)
    {fault : ConfigFileFault} (hconfig : r.configIn scene.tree = .error fault) :
    exec (prepare ids r) scene = (.error (.broken (.config fault)), scene) := by
  have hread : exec (readConfig r.config) scene = (.error (.broken (.config fault)), scene) := by
    rw [exec_readConfig, hconfig]
    rfl
  rw [prepare, exec_bind_ok (exec_batchPaths houtput scene), exec_bind_error hread]

lemma exec_readConfig_ok (hconfig : r.configIn scene.tree = .ok c) :
    exec (readConfig r.config) scene = (.ok c, scene) := by
  rw [exec_readConfig, hconfig]
  rfl

/-- A preparation breaks off over a threshold that has a reserved name. -/
lemma exec_prepare_of_reserved (houtput : (Path.ofText r.output).hasNullCharacter = false)
    (hconfig : r.configIn scene.tree = .ok c) {name : ReservedName}
    (hthreshold : Threshold.ofName (thresholdName r c) = .error name) :
    exec (prepare ids r) scene = (.error (.broken (.logLevel name)), scene) := by
  rw [prepare, exec_bind_ok (exec_batchPaths houtput scene),
    exec_bind_ok (exec_readConfig_ok hconfig), hthreshold]
  rfl

/-- A preparation breaks off over a store whose directory cannot be named. -/
lemma exec_prepare_of_directory_error (houtput : (Path.ofText r.output).hasNullCharacter = false)
    (hconfig : r.configIn scene.tree = .ok c)
    (hthreshold : Threshold.ofName (thresholdName r c) = .ok threshold) {fault : WiringFault}
    (hdirectory : c.directory = .error fault) :
    exec (prepare ids r) scene
      = (.error (.broken (.wiring fault)), { scene with renderer := c.log.renderer }) := by
  rw [prepare, exec_bind_ok (exec_batchPaths houtput scene),
    exec_bind_ok (exec_readConfig_ok hconfig), hthreshold, Wiring.ofSettings_toSettings, hdirectory]
  rfl

lemma exec_openTrail (haudit : ∀ path, r.auditLog = some path →
      scene.tree.makeDirectories (Path.ofText path).parent = .ok scene.tree) :
    exec (openTrail r) scene = (.ok r.trail, scene) := by
  rw [openTrail, ScreenRequest.trail]
  cases hlog : r.auditLog with
  | none => rfl
  | some path =>
    dsimp only
    rw [exec_bind, Task.exec_changeTree, haudit path hlog]
    rfl

/-- A store is assembled if its directory can be made. -/
lemma exec_assemble_eq {w : Wiring} {t : Tree}
    (hseparator : Wiring.readSeparator w.pipeline = .ok (.text (c.separator.getD "; ")))
    (hdefaults : w.defaults = c.assumed)
    (hmade : w.directory.elim (.ok scene.tree) scene.tree.makeDirectories = .ok t) :
    exec (assemble w) scene
      = (.ok (c.setup, .ofDirectory w.directory), { scene with tree := t }) := by
  rw [exec_assemble, Wiring.assemble_eq hseparator hdefaults, openStore_eq, hmade]
  rfl

/-- The batch of a request over a store in a directory, or in memory. -/
def prepared (ids : IdSource) (t : Tree) (r : ScreenRequest) (c : Config) (threshold : Nat)
    (directory : Option Path) : Preparation where
  paths := r.paths t
  threshold
  setup := c.setup
  session := { files := t, store := .ofDirectory directory, ids, audit := r.trail }

/-- A batch is prepared if the directory of its store can be made and the one of its audit file is
there. -/
theorem exec_prepare {directory : Option Path} {t : Tree}
    (houtput : (Path.ofText r.output).hasNullCharacter = false)
    (hconfig : r.configIn scene.tree = .ok c)
    (hthreshold : Threshold.ofName (thresholdName r c) = .ok threshold)
    (hdirectory : c.directory = .ok directory)
    (hmade : directory.elim (.ok scene.tree) scene.tree.makeDirectories = .ok t)
    (haudit : ∀ path, r.auditLog = some path →
      scene.tree.makeDirectories (Path.ofText path).parent = .ok scene.tree) :
    exec (prepare ids r) scene = (.ok (prepared ids t r c threshold directory),
      { scene with renderer := c.log.renderer, tree := t }) := by
  have hpaths : r.paths scene.tree = r.paths t := by
    cases directory with
    | none =>
      cases hmade
      rfl
    | some path => exact (ScreenRequest.paths_of_here (Tree.here_makeDirectories hmade) r).symm
  -- what comes after the configuration begins in a scene with its renderer
  have htrail : exec (openTrail r) { scene with renderer := c.log.renderer } = (.ok r.trail, _) :=
    exec_openTrail haudit
  have hassemble : exec (assemble ⟨c.pipelineSection, c.assumed, directory⟩)
      { scene with renderer := c.log.renderer } = (.ok (c.setup, .ofDirectory directory), _) :=
    exec_assemble_eq (Wiring.readSeparator_pipelineSection c) rfl hmade
  rw [prepare, exec_bind_ok (exec_batchPaths houtput scene), hpaths,
    exec_bind_ok (exec_readConfig_ok hconfig), hthreshold, Wiring.ofSettings_toSettings, hdirectory]
  simp only [Task.attempt, Except.map, pure_bind]
  rw [exec_bind_ok (Task.exec_modify _ _), exec_bind_ok htrail, exec_bind_ok hassemble]
  rfl

end

end Screen

end Shortlist
