import Mathlib.Data.List.Induction
import Shortlist.Proofs.Pipeline.Call
import Shortlist.Proofs.Pipeline.Ledger
import Shortlist.Proofs.Store.Collection
import Shortlist.Proofs.Store.Memory

/-!
# Runs over a store in memory

Each action of a pipeline over a store in memory lets the ledger of the store grow step by step, at
the time of the action (`Action.Extends`).  This holds whether the action succeeds or not, and in
particular for a batch that breaks off.  By induction over the calls of a run, the store is
consistent after every run, and every application that it holds was decided at the time of one of
the calls.

What came back from the calls does not enter into it, and neither does the setup: an extractor may
answer anything, a trail may fail or break an action off, and ids may be drawn twice.  A step is
taken only if the store accepts the record, and it accepts no id for a second time.
-/

namespace Shortlist

open Shortlist.Action (exec exec_bind exec_bind_ok)

/-- A session whose store is in memory, with sound collections that hold the entries of a ledger. -/
def Session.Holds (s : Session) (l : Ledger) : Prop :=
  ∃ (vacancies : MemoryCollection Vacancy) (applications : MemoryCollection Application),
    s.store = ⟨.memory vacancies, .memory applications⟩
      ∧ vacancies.IsSound ∧ applications.IsSound
      ∧ l = ⟨vacancies.records, applications.records⟩

namespace Session.Holds

variable {s s' : Session} {l l' : Ledger} {v : Vacancy} {a : Application} {files : Tree}

lemma of_store_eq (h : s.Holds l) (hstore : s'.store = s.store) : s'.Holds l := by
  unfold Session.Holds
  rw [hstore]
  exact h

/-- A session holds at most one ledger. -/
lemma unique (h : s.Holds l) (h' : s.Holds l') : l = l' := by
  obtain ⟨vacancies, applications, hstore, -, -, rfl⟩ := h
  obtain ⟨vacancies', applications', hstore', -, -, rfl⟩ := h'
  rw [hstore] at hstore'
  cases hstore'
  rfl

/-- A vacancy is looked up in the ledger. -/
lemma get?_eq (h : s.Holds l) (id : Text) :
    s.store.vacancies.get? s.files id = .ok (l.vacancies.find? fun v => v.id = id) := by
  obtain ⟨vacancies, applications, hstore, hvacancies, -, rfl⟩ := h
  rw [hstore, Collection.get?, hvacancies.get?_eq]
  rfl

/-- A vacancy that is taken in has a new id and stands at the end of the ledger. -/
lemma of_insert_vacancy {vacancies : Collection Vacancy} (h : s.Holds l)
    (hinsert : s.store.vacancies.insert s.files v = .ok (vacancies, files)) :
    files = s.files ∧ (∀ w ∈ l.vacancies, w.id ≠ v.id)
      ∧ ∀ s' : Session, s'.store = { s.store with vacancies } →
        s'.Holds { l with vacancies := l.vacancies ++ [v] } := by
  obtain ⟨held, applications, hstore, hheld, happlications, rfl⟩ := h
  rw [hstore, Collection.insert_memory, Except.map_eq_ok] at hinsert
  obtain ⟨held', hadded, hpair⟩ := hinsert
  cases hpair
  obtain ⟨hnew, hrecords, hsound⟩ := hheld.insert hadded
  refine ⟨rfl, hnew, fun s' hs' => ⟨held', applications, ?_, hsound, happlications, ?_⟩⟩
  · rw [hs', hstore]
  · rw [hrecords]

/-- An application that is taken in has a new id and stands at the end of the ledger. -/
lemma of_insert_application {applications : Collection Application} (h : s.Holds l)
    (hinsert : s.store.applications.insert s.files a = .ok (applications, files)) :
    files = s.files ∧ (∀ b ∈ l.applications, b.id ≠ a.id)
      ∧ ∀ s' : Session, s'.store = { s.store with applications } →
        s'.Holds { l with applications := l.applications ++ [a] } := by
  obtain ⟨vacancies, held, hstore, hvacancies, hheld, rfl⟩ := h
  rw [hstore, Collection.insert_memory, Except.map_eq_ok] at hinsert
  obtain ⟨held', hadded, hpair⟩ := hinsert
  cases hpair
  obtain ⟨hnew, hrecords, hsound⟩ := hheld.insert hadded
  refine ⟨rfl, hnew, fun s' hs' => ⟨vacancies, held', ?_, hvacancies, hsound, ?_⟩⟩
  · rw [hs', hstore]
  · rw [hrecords]

/-- A vacancy with a new id is taken in. -/
lemma exists_insert_vacancy (h : s.Holds l) (hnew : ∀ w ∈ l.vacancies, w.id ≠ v.id) :
    ∃ vacancies, s.store.vacancies.insert s.files v = .ok (vacancies, s.files) := by
  obtain ⟨held, applications, hstore, hheld, -, rfl⟩ := h
  have hany : ¬ held.records.any (fun w => Record.id w = Record.id v) = true := by
    simpa [Record.id] using hnew
  rw [hstore, Collection.insert_memory, hheld.insert_eq, if_neg hany]
  exact ⟨_, rfl⟩

/-- An application with a new id is taken in. -/
lemma exists_insert_application (h : s.Holds l) (hnew : ∀ b ∈ l.applications, b.id ≠ a.id) :
    ∃ applications, s.store.applications.insert s.files a = .ok (applications, s.files) := by
  obtain ⟨vacancies, held, hstore, -, hheld, rfl⟩ := h
  have hany : ¬ held.records.any (fun b => Record.id b = Record.id a) = true := by
    simpa [Record.id] using hnew
  rw [hstore, Collection.insert_memory, hheld.insert_eq, if_neg hany]
  exact ⟨_, rfl⟩

end Session.Holds

/-! ## Actions -/

namespace Action

variable {α β : Type} {setup : Setup} {now : Instant}

/-- An action after which a store in memory holds what it held before and possibly more. -/
def Extends (setup : Setup) (now : Instant) (action : Action α) : Prop :=
  ∀ s l, s.Holds l → ∃ l', (exec action s).2.Holds l' ∧ l.Steps setup now l'

/-- An action that leaves the store as it is. -/
def KeepsStore (action : Action α) : Prop := ∀ s, (exec action s).2.store = s.store

lemma KeepsStore.extends {action : Action α} (h : action.KeepsStore) :
    action.Extends setup now := by
  intro s l hl
  exact ⟨l, hl.of_store_eq (h s), .refl⟩

lemma Extends.bind {x : Action α} {f : α → Action β} (hx : x.Extends setup now)
    (hf : ∀ a, (f a).Extends setup now) : (x >>= f).Extends setup now := by
  intro s l hl
  obtain ⟨l₁, hl₁, hsteps⟩ := hx s l hl
  rw [exec_bind]
  generalize exec x s = outcome at hl₁ ⊢
  obtain ⟨_ | a, s₁⟩ := outcome
  · exact ⟨l₁, hl₁, hsteps⟩
  · obtain ⟨l₂, hl₂, hsteps'⟩ := hf a s₁ l₁ hl₁
    exact ⟨l₂, hl₂, hsteps.trans hsteps'⟩

lemma extends_pure (a : α) : (pure a : Action α).Extends setup now :=
  KeepsStore.extends fun _ => rfl

lemma extends_throw (fault : Fault) : (throw fault : Action α).Extends setup now :=
  KeepsStore.extends fun _ => rfl

end Action

namespace Pipeline

open Shortlist.Action (Extends KeepsStore)

variable {setup : Setup} {now : Instant}

lemma extends_ofCheck {α : Type} (subject : Subject) (check : Check α) :
    (ofCheck subject check).Extends setup now := by
  cases check with
  | accepted a => exact Action.extends_pure a
  | refused issues => exact Action.extends_throw _
  | broken fault => exact Action.extends_throw _

lemma extends_insertVacancy (v : Vacancy) : (Session.insertVacancy v).Extends setup now := by
  intro s l hl
  rw [Session.exec_insertVacancy]
  cases h : s.store.vacancies.insert s.files v with
  | error fault => exact ⟨l, hl, .refl⟩
  | ok inserted =>
    obtain ⟨-, hnew, hheld⟩ := hl.of_insert_vacancy h
    exact ⟨_, hheld _ rfl, .single (.vacancy v hnew)⟩

lemma extends_registerVacancy (draft : VacancyDraft) :
    (registerVacancy now draft).Extends setup now :=
  (KeepsStore.extends fun _ => rfl).bind fun _ => (extends_insertVacancy _).bind fun _ =>
    (KeepsStore.extends fun _ => rfl).bind fun _ => Action.extends_pure _

lemma extends_createVacancy (document : Value) :
    (createVacancy now document).Extends setup now :=
  (extends_ofCheck _ _).bind fun draft => extends_registerVacancy draft

/-- A submission that is decided on adds an application to a vacancy that is there, with the
decision on it, whether or not the application comes back. -/
lemma extends_createApplication (vacancyId : Text) (applicantId : Option Text)
    (documents : Documents) :
    (createApplication setup now vacancyId applicantId documents).Extends setup now := by
  intro s l hl
  rcases exec_createApplication_cases setup now vacancyId applicantId documents s with
    ⟨fault, s', h, huntouched⟩ | ⟨v, ruling, applications, added, s', hsettled, h⟩
  · rw [h]
    exact ⟨l, hl.of_store_eq huntouched.store, .refl⟩
  · rw [h]
    have hv : v ∈ l.vacancies := by
      have hget := hsettled.ruled.vacancy
      rw [hl.get?_eq] at hget
      exact List.mem_of_find?_eq_some (Except.ok.inj hget)
    obtain ⟨-, hnew, hheld⟩ := hl.of_insert_application hsettled.inserted
    exact ⟨_, hheld s' hsettled.store,
      .single (.application v ruling.application hv hnew hsettled.ruled.isDecision)⟩

lemma extends_submit (payload : Payload) : (payload.submit setup now).Extends setup now := by
  rw [payload.submit_eq]
  exact (extends_ofCheck _ _).bind fun submission => extends_createApplication _ _ _

/-! ## Batches -/

lemma extends_decideEntries (vacancyId : Text) (number : Nat) (entries : List BatchEntry) :
    (decideEntries setup now vacancyId number entries).Extends setup now := by
  induction entries generalizing number with
  | nil => exact Action.extends_pure _
  | cons entry rest ih =>
    rw [decideEntries]
    cases entry.vacancyId.filter (· ≠ vacancyId) with
    | some other =>
      exact (KeepsStore.extends fun _ => rfl).bind fun _ =>
        (ih (number + 1)).bind fun _ => Action.extends_pure _
    | none =>
      refine (extends_createApplication _ _ _).bind fun application => ?_
      refine Extends.bind ?_ fun _ => (ih (number + 1)).bind fun _ => Action.extends_pure _
      rw [checkReducible]
      cases Record.dump? application with
      | ok _ => exact Action.extends_pure ()
      | error fault => exact Action.extends_throw _

lemma keepsStore_readFile (p : Path) : (Session.readFile p).KeepsStore := by
  intro s
  rw [Session.exec_readFile]
  cases s.files.read p <;> rfl

lemma keepsStore_changeFiles (change : Tree → Except Obstructed Tree) :
    (Session.changeFiles change).KeepsStore := by
  intro s
  rw [Session.exec_changeFiles]
  cases change s.files <;> rfl

lemma extends_registerFile (p : Path) : (registerFile now p).Extends setup now := by
  refine (keepsStore_readFile p).extends.bind fun content => ?_
  cases readVacancyFile content with
  | ok document => exact extends_createVacancy document
  | error fault => cases fault <;> exact Action.extends_throw _

lemma extends_loadApplications (p : Path) : (loadApplications p).Extends setup now := by
  refine (keepsStore_readFile p).extends.bind fun content => ?_
  cases ApplicationsFile.read content with
  | error fault => exact Action.extends_throw _
  | ok file =>
    dsimp only
    split
    · exact (KeepsStore.extends fun _ => rfl).bind fun _ => Action.extends_pure _
    · exact Action.extends_pure _

lemma extends_writeOutput (p : Path) (v : Value) : (writeOutput p v).Extends setup now := by
  refine (keepsStore_changeFiles _).extends.bind fun _ => ?_
  cases Json.document .page v with
  | error fault => exact Action.extends_throw _
  | ok t =>
    refine (keepsStore_changeFiles _).extends.bind fun _ => ?_
    cases t.encode with
    | error fault => exact Action.extends_throw _
    | ok bytes => exact (keepsStore_changeFiles _).extends

lemma extends_runBatch (paths : BatchPaths) : (runBatch setup now paths).Extends setup now :=
  (extends_registerFile _).bind fun _ => (extends_loadApplications _).bind fun _ =>
    (extends_decideEntries _ _ _).bind fun _ => (extends_writeOutput _ _).bind fun _ =>
      Action.extends_pure _

end Pipeline

/-! ## Runs -/

/-- The vacancies and the applications of a session are these, in this order. -/
def Session.Lists (s : Session) (vacancies : List Vacancy) (applications : List Application) :
    Prop :=
  exec Pipeline.listVacancies s = (.ok vacancies, s)
    ∧ exec (Pipeline.listApplications none) s = (.ok applications, s)

lemma Session.Holds.lists {s : Session} {l : Ledger} (h : s.Holds l) :
    s.Lists l.vacancies l.applications := by
  obtain ⟨vacancies, applications, hstore, -, -, rfl⟩ := h
  constructor
  · rw [Pipeline.listVacancies, exec_bind_ok (Action.exec_get _), Session.exec_ofStore, hstore]
    rfl
  · rw [Pipeline.listApplications, exec_bind_ok (Action.exec_get _)]
    dsimp only
    rw [Session.exec_ofStore, hstore]
    rfl

lemma Session.holds_inMemory (s : Session) :
    { s with store := .inMemory }.Holds .empty :=
  ⟨.empty, .empty, rfl, MemoryCollection.isSound_empty, MemoryCollection.isSound_empty, rfl⟩

/-- An application is among those of a session. -/
def Session.HasApplication (s : Session) (a : Application) : Prop :=
  ∃ applications, s.store.applications.toList s.files = .ok applications ∧ a ∈ applications

lemma Session.Holds.hasApplication_iff {s : Session} {l : Ledger} (h : s.Holds l)
    (a : Application) : s.HasApplication a ↔ a ∈ l.applications := by
  obtain ⟨vacancies, applications, hstore, -, -, rfl⟩ := h
  simp [Session.HasApplication, hstore, Collection.toList]

namespace Call

variable {setup : Setup} {s : Session} {calls : List Call}

/-- A call adds to the ledger step by step, at its own time. -/
lemma holds_after (setup : Setup) (call : Call) {l : Ledger} (h : s.Holds l) :
    ∃ l', (call.after setup s).Holds l' ∧ l.Steps setup call.now l' := by
  rw [after]
  cases call.order with
  | createVacancy document => exact Pipeline.extends_createVacancy document s l h
  | registerVacancy draft => exact Pipeline.extends_registerVacancy draft s l h
  | submit payload => exact Pipeline.extends_submit payload s l h
  | runBatch paths => exact Pipeline.extends_runBatch paths s l h
  | changeFiles files => exact ⟨l, h, .refl⟩

/-- One of the calls of a run brought an application in and decided on it at its own time, by the
requirements of a vacancy. -/
def IsDecidedIn (setup : Setup) (s : Session) (calls : List Call) (v : Vacancy) (a : Application) :
    Prop :=
  ∃ before call later, calls = before ++ call :: later
    ∧ ¬ (run setup before s).HasApplication a ∧ (run setup (before ++ [call]) s).HasApplication a
    ∧ IsDecision setup call.now v a

lemma IsDecidedIn.append {v : Vacancy} {a : Application} (h : IsDecidedIn setup s calls v a)
    (calls' : List Call) : IsDecidedIn setup s (calls ++ calls') v a := by
  obtain ⟨before, call, later, rfl, h⟩ := h
  exact ⟨before, call, later ++ calls', by simp, h⟩

/-- After a run from an empty ledger, the ledger is consistent and one of the calls decided on each
of its applications. -/
lemma holds_run (setup : Setup) (hs : s.Holds .empty) (calls : List Call) :
    ∃ l, (run setup calls s).Holds l ∧ l.IsConsistent
      ∧ ∀ a ∈ l.applications, ∃ v ∈ l.vacancies, IsDecidedIn setup s calls v a := by
  induction calls using List.reverseRecOn with
  | nil => exact ⟨.empty, hs, Ledger.isConsistent_empty, by simp [Ledger.empty]⟩
  | append_singleton calls call ih =>
    obtain ⟨l, hl, hconsistent, hdecided⟩ := ih
    obtain ⟨l', hl', hsteps⟩ := holds_after setup call hl
    have hrun : (run setup (calls ++ [call]) s).Holds l' := by
      rw [run_append, run_singleton]
      exact hl'
    refine ⟨l', hrun, hsteps.isConsistent hconsistent, fun a ha => ?_⟩
    by_cases hold : a ∈ l.applications
    · obtain ⟨v, hv, hdecidedIn⟩ := hdecided a hold
      exact ⟨v, hsteps.grows.vacancies.subset hv, hdecidedIn.append [call]⟩
    · obtain ⟨v, hv, hdecision⟩ := (hsteps.isDecision ha).resolve_left hold
      exact ⟨v, hv, calls, call, [], rfl, by rwa [hl.hasApplication_iff],
        by rwa [hrun.hasApplication_iff], hdecision⟩

/-- After any run of calls that starts with an empty store in memory, no id occurs twice among the
vacancies, nor among the applications; every application is to exactly one vacancy, by whose
requirements one of the calls decided on it, at its own time and by the facts that the application
holds; and the lists of the applications to each vacancy are the parts of the list of all
applications, each in the order of that list. -/
theorem run_consistent (setup : Setup) (s : Session) (calls : List Call) :
    let start : Session := { s with store := .inMemory }
    let last := run setup calls start
    ∃ vacancies applications,
      exec Pipeline.listVacancies last = (.ok vacancies, last)
        ∧ exec (Pipeline.listApplications none) last = (.ok applications, last)
        ∧ (vacancies.map (·.id)).Nodup
        ∧ (applications.map (·.id)).Nodup
        ∧ (∀ a ∈ applications, ∃ v, vacancies.filter (fun w => w.id = a.vacancyId) = [v]
          ∧ IsDecidedIn setup start calls v a)
        ∧ (∀ v ∈ vacancies, exec (Pipeline.listApplications (some v.id)) last
          = (.ok (applications.filter fun a => a.vacancyId = v.id), last))
        ∧ (vacancies.flatMap fun v => applications.filter fun a => a.vacancyId = v.id).Perm
          applications := by
  intro start last
  obtain ⟨l, hl, hconsistent, hdecided⟩ := holds_run setup s.holds_inMemory calls
  obtain ⟨hvacancies, happlications⟩ := hl.lists
  refine ⟨l.vacancies, l.applications, hvacancies, happlications, hconsistent.vacancies_nodup,
    hconsistent.applications_nodup, fun a ha => ?_, fun v hv => ?_, hconsistent.applications_perm⟩
  · obtain ⟨v, hv, hdecidedIn⟩ := hdecided a ha
    obtain ⟨before, call, later, hcalls, hnot, has, hdecision⟩ := hdecidedIn
    refine ⟨v, ?_, before, call, later, hcalls, hnot, has, hdecision⟩
    rw [hdecision.vacancyId]
    exact hconsistent.filter_vacancies hv
  -- the list for a vacancy is a filter of the collection, so the order is that of the whole list
  · obtain ⟨vacancies, applications, hstore, -, -, rfl⟩ := hl
    have happlications : last.store.applications = .memory applications :=
      congrArg Store.applications hstore
    rw [Pipeline.listApplications, exec_bind_ok (Action.exec_get _)]
    dsimp only
    rw [Session.exec_ofStore, happlications]
    rfl

end Call

end Shortlist
