import Shortlist.Proofs.CommandLine.Preparation

/-!
# From a configuration to a system

A configuration is written as settings, and a system is wired by these.  Settings leave out what a
configuration leaves open, and on the way a value that counts as absent could be taken for one that
is: an empty separator, an empty path, or facts all of which are null.  None of them is mistaken.
The system has the separator of the configuration, and its store is where the configuration places
it (`StoreSection.Places`); see `Wiring.ofSettings_intact`.

The facts do not always get through unchanged.  Settings hold copies of them, and the copy of a fact
that comes round to itself goes round once more than the fact does (`Value.copied_eq_iff`).  A
configuration with such a fact is wired to something else than it says, and its settings, read as a
configuration and written once more, may differ again.  All other configurations are wired to their
own facts (`Config.ComesRound`).

The settings of a configuration are themselves a configuration, which says all that matters for the
wiring and forgets the rest (`Config.read_toSettings`).
-/

namespace Shortlist

/-! ## Places of stores -/

namespace StoreSection

/-- Where a section places the store: in memory, or in the directory that it names.  A path that is
null or empty names the usual directory. -/
inductive Places : StoreSection → Option Path → Prop where
  | memory (path : Option Text) : Places ⟨.memory, path⟩ none
  | unnamed : Places ⟨.files, none⟩ (some (.ofText Wiring.defaultDirectory))
  | emptyName : Places ⟨.files, some ""⟩ (some (.ofText Wiring.defaultDirectory))
  | named {name : Text} {path : Path} (hfilled : name ≠ "")
    (hpath : Path.ofPoints name = .ok path) :
    Places ⟨.files, some name⟩ (some path)

/-- A section that names a directory which no bytes can name. -/
inductive Misplaces : StoreSection → Text.Unencodable → Prop where
  | named {name : Text} {fault : Text.Unencodable} (hpath : Path.ofPoints name = .error fault) :
    Misplaces ⟨.files, some name⟩ fault

end StoreSection

lemma Text.isEmpty_iff {t : Text} : t.isEmpty = true ↔ t = "" := by
  rw [Text.isEmpty, List.isEmpty_iff]
  constructor
  · intro h
    exact Text.points_inj.1 h
  · rintro rfl
    rfl

namespace Config

/-- The directory of a configuration is the place of its store, or no bytes can name it. -/
lemma directory_spec (c : Config) :
    (∃ directory, c.directory = .ok directory ∧ c.store.Places directory)
      ∨ ∃ fault, c.directory = .error (.pathUnencodable fault) ∧ c.store.Misplaces fault := by
  obtain ⟨separator, defaults, ⟨backend, path⟩, log⟩ := c
  cases backend with
  | memory => exact .inl ⟨none, rfl, .memory path⟩
  | files =>
    cases path with
    | none => exact .inl ⟨_, rfl, .unnamed⟩
    | some name =>
      by_cases hempty : name = ""
      · subst hempty
        exact .inl ⟨_, rfl, .emptyName⟩
      · have hfilled : ¬name.isEmpty = true := fun h => hempty (Text.isEmpty_iff.1 h)
        cases hpath : Path.ofPoints name with
        | error fault =>
          refine .inr ⟨fault, ?_, .named hpath⟩
          simp only [directory, if_neg hfilled, hpath]
          rfl
        | ok path =>
          refine .inl ⟨some path, ?_, .named hempty hpath⟩
          simp only [directory, if_neg hfilled, hpath]
          rfl

/-! ## Settings as a configuration -/

/-- What settings keep of a configuration: the facts are copies, where there is no store in files
there is nothing to say about the store, and nothing is ever said about the log. -/
def kept (c : Config) : Config where
  separator := c.separator
  defaults := c.defaults.map Facts.copied
  store := if c.store.backend = .files then c.store else {}

/-- A configuration with a fact that comes round to itself. -/
def ComesRound (c : Config) : Prop :=
  ∃ facts field, c.defaults = some facts ∧ (facts.get field).ComesRound Value.depthLimit

/-- The facts that are assumed are the given ones exactly if none of these comes round. -/
lemma assumed_eq_iff (c : Config) : c.assumed = c.defaults.getD .usual ↔ ¬c.ComesRound := by
  rw [assumed, ComesRound]
  cases c.defaults with
  | none => simp
  | some facts => simpa using Facts.copied_eq_iff

/-- What is kept assumes the same facts exactly if their copies do not come round in turn. -/
lemma assumed_kept_eq_iff (c : Config) : c.kept.assumed = c.assumed ↔ ¬c.kept.ComesRound := by
  rw [← assumed_eq_iff]
  rfl

/-- Facts that do not come round have copies that do not. -/
lemma not_comesRound_kept {c : Config} (h : ¬c.ComesRound) : ¬c.kept.ComesRound := by
  rintro ⟨copies, field, hcopies, hround⟩
  obtain ⟨facts, hfacts, rfl⟩ := Option.map_eq_some_iff.1 hcopies
  have hnone : ∀ field, ¬(facts.get field).ComesRound Value.depthLimit := fun field hround =>
    h ⟨facts, field, hfacts, hround⟩
  rw [Facts.copied_eq_iff.2 hnone] at hround
  exact hnone field hround

lemma directory_kept (c : Config) : c.kept.directory = c.directory := by
  obtain ⟨separator, defaults, ⟨backend, path⟩, log⟩ := c
  cases backend <;> rfl

lemma readFeedback_record (separator : Text) :
    readFeedback (.record [("feedback_separator", .text separator)])
      = .accepted (some separator) := by
  have hget := Entries.get?_map [("feedback_separator", .text separator)] "feedback_separator"
  have hread : Check.textOrNull (.text separator) = .accepted (some separator) := rfl
  exact Check.optional_eq hget hread none

lemma readExtraction_record {facts : Facts} (h : facts.IsClosed) :
    readExtraction (.record [("defaults", facts.toValue)]) = .accepted (some facts) := by
  have hget := Entries.get?_map [("defaults", facts.toValue)] "defaults"
  have hfacts : Facts.read facts.toValue.opened = .accepted facts := by
    rw [h.opened_toValue, facts.read_toValue]
  have hread : Check.orNull (fun v => Facts.read v.opened) facts.toValue
      = .accepted (some facts) :=
    congrArg (some <$> ·) hfacts
  rw [readExtraction, Value.opened_record (List.forall_mem_singleton.2 h.toValue)]
  exact Check.optional_eq hget hread none

lemma readStore_record (path : Option Text) :
    readStore (.record (("backend", .text Backend.files.name) ::
        match path with
        | none => []
        | some p => [("path", .text p)])) = .accepted ⟨.files, path⟩ := by
  cases path with
  | none => rfl
  | some p =>
    have hget := Entries.get?_map [("backend", .text Backend.files.name), ("path", .text p)]
    have hbackend : Check.oneOf ([Backend.memory, .files].map fun b => (b.name, b))
        (.text Backend.files.name) = .accepted .files := Check.oneOf_text rfl
    have hpath : Check.textOrNull (.text p) = .accepted (some p) := rfl
    show readStore (.record [("backend", .text Backend.files.name), ("path", .text p)]) = _
    rw [Value.record, readStore, Check.entries, Check.andThen_accepted,
      Check.optional_eq (hget "backend") hbackend, Check.optional_eq (hget "path") hpath]
    exact Check.closed_map (by simp) _

/-- What is read of the sections that settings have or leave out. -/
lemma optional_toSettings (c : Config) :
    ∃ es, c.toSettings = .mapping es
      ∧ Check.optional es "pipeline" none readFeedback = .accepted c.separator
      ∧ Check.optional es "extraction" none readExtraction = .accepted c.kept.defaults
      ∧ Check.optional es "store" {} readStore = .accepted c.kept.store
      ∧ Check.optional es "logging" {} readLog = .accepted c.kept.log := by
  obtain ⟨separator, defaults, ⟨backend, path⟩, log⟩ := c
  refine ⟨_, rfl, ?_, ?_, ?_, ?_⟩
  all_goals unfold Check.optional; rw [Entries.get?_map]
  · cases separator with
    | none => cases defaults <;> cases backend <;> rfl
    | some separator =>
      have hread := congrArg (·.under (.name "pipeline")) (readFeedback_record separator)
      cases defaults <;> cases backend <;> exact hread
  · cases defaults with
    | none => cases separator <;> cases backend <;> rfl
    | some facts =>
      have hread :=
        congrArg (·.under (.name "extraction")) (readExtraction_record facts.isClosed_copied)
      cases separator <;> cases backend <;> exact hread
  · cases backend with
    | memory => cases separator <;> cases defaults <;> rfl
    | files =>
      have hread := congrArg (·.under (.name "store")) (readStore_record path)
      cases separator <;> cases defaults <;> exact hread
  · cases separator <;> cases defaults <;> cases backend <;> rfl

/-- Settings read as the configuration that they keep. -/
theorem read_toSettings (c : Config) : Config.read c.toSettings = .accepted c.kept := by
  obtain ⟨es, hes, hpipeline, hextraction, hstore, hlog⟩ := optional_toSettings c
  rw [Config.read, c.opened_toSettings, hes]
  dsimp only
  rw [hpipeline, hextraction, hstore, hlog]
  rfl

end Config

/-! ## The wired system -/

/-- A system with its store in memory, or in a directory, which is made if it is missing. -/
def Setup.withStore (setup : Setup) (directory : Option Path) (files : Tree) :
    Except WiringFault (Setup × Store × Tree) :=
  match directory with
  | none => .ok (setup, .inMemory, files)
  | some path =>
    ((files.makeDirectories path).mapError .obstructed).map fun files =>
      (setup, .inDirectory path, files)

namespace Wiring

/-- What is wired has the collaborators that the configuration asks for, and a store in memory or in
its directory. -/
lemma assemble_eq_withStore {c : Config} {w : Wiring} (hseparator : w.separator
      = .ok (.text (c.separator.getD "; "))) (hdefaults : w.defaults = c.assumed)
    (files : Tree) : w.assemble files = c.setup.withStore w.directory files := by
  rw [assemble_eq hseparator hdefaults]
  unfold openStore
  cases w.directory with
  | none => rfl
  | some path =>
    simp only [Setup.withStore]
    cases files.makeDirectories path <;> rfl

/-- A configuration is wired, and once more through its settings, to collaborators that may differ
in the facts only. -/
lemma ofSettings_kept (c : Config) :
    ofSettings c.kept.toSettings = c.directory.map fun directory =>
      { pipeline := c.pipelineSection, defaults := c.kept.assumed, directory } := by
  rw [ofSettings_toSettings, c.directory_kept]
  rfl

/-- A configuration reaches the system that is wired by its settings.  The separator of the reasons
is its own, an empty one included, or the usual one; the facts that are assumed are copies of its
own, even if all of them are null, or the usual ones; and the store is in memory or in the directory
that the configuration names.  Only a directory that no bytes can name stops the wiring, and nothing
else takes its place.  The settings are accepted as a configuration in turn.

Facts are copied unchanged exactly if none of them comes round to itself.  Then the settings lead to
the same wiring, too; in general they do so exactly if the copies do not come round. -/
theorem ofSettings_intact (c : Config) :
    (c.assumed = c.defaults.getD .usual ↔ ¬c.ComesRound)
    ∧ ∃ again, Config.read c.toSettings = .accepted again
      ∧ (again.ComesRound → c.ComesRound)
      ∧ ((∃ directory w, c.store.Places directory ∧ ofSettings c.toSettings = .ok w
          ∧ w.separator = .ok (.text (c.separator.getD "; "))
          ∧ w.defaults = c.assumed
          ∧ w.directory = directory
          ∧ (∀ files, w.assemble files = c.setup.withStore directory files)
          ∧ (ofSettings again.toSettings = .ok w ↔ ¬again.ComesRound))
        ∨ ∃ fault, c.store.Misplaces fault
          ∧ ofSettings c.toSettings = .error (.pathUnencodable fault)
          ∧ ofSettings again.toSettings = .error (.pathUnencodable fault)) := by
  have hwiring := ofSettings_toSettings c
  have hagain := ofSettings_kept c
  refine ⟨c.assumed_eq_iff, c.kept, c.read_toSettings, fun hkept => ?_, ?_⟩
  · by_contra hround
    exact Config.not_comesRound_kept hround hkept
  · rcases c.directory_spec with ⟨directory, hdirectory, hplaces⟩ | ⟨fault, hdirectory, hmisplaces⟩
    · left
      rw [hdirectory] at hwiring hagain
      let w : Wiring := ⟨c.pipelineSection, c.assumed, directory⟩
      have hseparator : w.separator = .ok (.text (c.separator.getD "; ")) :=
        readSeparator_pipelineSection c
      refine ⟨directory, w, hplaces, hwiring, hseparator, rfl, rfl, fun files => ?_, ?_⟩
      · exact assemble_eq_withStore hseparator rfl files
      · -- the two wirings have everything but the facts in common
        rw [hagain, ← Config.assumed_kept_eq_iff]
        simp [Except.map, w]
    · right
      rw [hdirectory] at hwiring hagain
      exact ⟨fault, hmisplaces, hwiring, hagain⟩

end Wiring

end Shortlist
