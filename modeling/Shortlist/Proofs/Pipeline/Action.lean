import Mathlib.Tactic.Lemma
import Shortlist.Pipeline.Session

/-!
# What actions come to

`Action.exec` is the outcome of an action and the session that it leaves behind.  The two stand side
by side because an action that fails leaves a session behind as well: what it has stored, reported
or drawn before the fault stays.  The laws below say this for the steps that actions are made of, so
that later on an action is taken apart by these laws and no proof has to open the monad.

For two sessions there is a law of another kind.  `Action.AgreeUntil` says that an action comes to
the same in both, and leaves related sessions behind, unless the second one breaks off, as it does
when something escapes from its audit trail.  This is kept by sequences
(`Action.AgreeUntil.bind`), and comparisons of pipelines rest on it.

Whether a decision that could not be recorded ends the work is said once, by `AuditTrail.goOn`.
-/

namespace Shortlist

namespace Action

variable {α β : Type}

/-- The outcome of an action and the session that it leaves behind. -/
def exec (action : Action α) (s : Session) : Except Fault α × Session := action.run.run s

@[simp]
lemma exec_pure (a : α) (s : Session) : exec (pure a) s = (.ok a, s) := rfl

@[simp]
lemma exec_throw (fault : Fault) (s : Session) :
    exec (throw fault : Action α) s = (.error fault, s) := rfl

@[simp]
lemma exec_get (s : Session) : exec get s = (.ok s, s) := rfl

@[simp]
lemma exec_set (s' s : Session) : exec (set s') s = (.ok (), s') := rfl

/-- The outcome of something that does not look at the session. -/
@[simp]
lemma exec_lift (outcome : Except Fault α) (s : Session) :
    exec (ExceptT.mk (pure outcome)) s = (outcome, s) := rfl

lemma exec_bind (x : Action α) (f : α → Action β) (s : Session) :
    exec (x >>= f) s = match exec x s with
      | (.ok a, s') => exec (f a) s'
      | (.error fault, s') => (.error fault, s') := by
  unfold exec
  rw [ExceptT.run_bind, StateT.run_bind]
  rcases x.run.run s with ⟨_ | _, s'⟩ <;> rfl

lemma exec_bind_ok {x : Action α} {s s' : Session} {a : α} (h : exec x s = (.ok a, s'))
    (f : α → Action β) : exec (x >>= f) s = exec (f a) s' := by
  rw [exec_bind, h]

lemma exec_bind_error {x : Action α} {s s' : Session} {fault : Fault}
    (h : exec x s = (.error fault, s')) (f : α → Action β) :
    exec (x >>= f) s = (.error fault, s') := by
  rw [exec_bind, h]

/-- A sequence of actions ends well if both of its parts do. -/
lemma exec_bind_eq_ok {x : Action α} {f : α → Action β} {s s' : Session} {b : β} :
    exec (x >>= f) s = (.ok b, s')
      ↔ ∃ a s₁, exec x s = (.ok a, s₁) ∧ exec (f a) s₁ = (.ok b, s') := by
  rw [exec_bind]
  constructor
  · intro h
    rcases hx : exec x s with ⟨_ | a, s₁⟩
    · rw [hx] at h
      cases h
    · rw [hx] at h
      exact ⟨a, s₁, rfl, h⟩
  · rintro ⟨a, s₁, hx, h⟩
    rw [hx]
    exact h

/-- A sequence of actions fails if one of its parts does. -/
lemma exec_bind_eq_error {x : Action α} {f : α → Action β} {s s' : Session} {fault : Fault} :
    exec (x >>= f) s = (.error fault, s')
      ↔ exec x s = (.error fault, s')
        ∨ ∃ a s₁, exec x s = (.ok a, s₁) ∧ exec (f a) s₁ = (.error fault, s') := by
  rw [exec_bind]
  rcases exec x s with ⟨_ | a, s₁⟩
  · simp
  · constructor
    · exact fun h => .inr ⟨a, s₁, rfl, h⟩
    · rintro (h | ⟨_, _, h, hrest⟩)
      · cases h
      · cases h
        exact hrest

/-- Two outcomes, each with the session that was left behind, agree unless the second one broke off:
they are the same, and the sessions are related.  The first one did not break off.  Its session is
related to some session in any case, so that it can be followed beyond the break. -/
structure AgreeUntil (R : Session → Session → Prop) (breaks : Fault → Prop)
    (first second : Except Fault α × Session) : Prop where
  stands : ∀ fault, first.1 = .error fault → ¬breaks fault
  related : ∃ t, R first.2 t
  agrees : (∀ fault, second.1 = .error fault → ¬breaks fault) →
    second.1 = first.1 ∧ R first.2 second.2

section

variable {R : Session → Session → Prop} {breaks : Fault → Prop} {x : Action α} {f : α → Action β}
  {s t : Session}

lemma AgreeUntil.of_eq {first second : Except Fault α × Session}
    (hstands : ∀ fault, first.1 = .error fault → ¬breaks fault)
    (h : second.1 = first.1 ∧ R first.2 second.2) : AgreeUntil R breaks first second :=
  ⟨hstands, ⟨_, h.2⟩, fun _ => h⟩

/-- Sequences of actions agree until the second one breaks off if both of their parts do. -/
lemma AgreeUntil.bind (hx : AgreeUntil R breaks (exec x s) (exec x t))
    (hf : ∀ a s' t', exec x s = (.ok a, s') → R s' t' →
      AgreeUntil R breaks (exec (f a) s') (exec (f a) t')) :
    AgreeUntil R breaks (exec (x >>= f) s) (exec (x >>= f) t) := by
  rw [exec_bind, exec_bind]
  generalize hfirst : exec x s = first at hx ⊢
  generalize exec x t = second at hx ⊢
  obtain ⟨outcome, s'⟩ := first
  obtain ⟨fault' | a', t'⟩ := second
  · have hagrees (h : ¬breaks fault') : .error fault' = outcome ∧ R s' t' :=
      hx.agrees fun _ h' => by cases h'; exact h
    cases outcome with
    | error fault =>
      refine ⟨fun _ h => ?_, hx.related, fun hgoes => ?_⟩
      · cases h
        exact hx.stands fault rfl
      · obtain ⟨houtcome, hrelated⟩ := hagrees (hgoes fault' rfl)
        cases houtcome
        exact ⟨rfl, hrelated⟩
    | ok a =>
      -- only the second one has broken off; the first one is followed beside any related session
      obtain ⟨u, hu⟩ := hx.related
      have hrest := hf a s' u hfirst hu
      refine ⟨hrest.stands, hrest.related, fun hgoes => ?_⟩
      cases (hagrees (hgoes fault' rfl)).1
  · obtain ⟨houtcome, hrelated⟩ := hx.agrees fun _ h => by cases h
    obtain rfl : .ok a' = outcome := houtcome
    exact hf a' s' t' hfirst hrelated

lemma agreeUntil_never {first second : Except Fault α × Session} :
    AgreeUntil R (fun _ => False) first second ↔ second.1 = first.1 ∧ R first.2 second.2 :=
  ⟨fun h => h.agrees fun _ _ => id, .of_eq fun _ _ => id⟩

/-- Two sessions stay related through a sequence of actions, with the same outcome, if they do so
through both of its parts. -/
lemma exec_bind_related (hx : (exec x t).1 = (exec x s).1 ∧ R (exec x s).2 (exec x t).2)
    (hf : ∀ a s' t', exec x s = (.ok a, s') → R s' t' →
      (exec (f a) t').1 = (exec (f a) s').1 ∧ R (exec (f a) s').2 (exec (f a) t').2) :
    (exec (x >>= f) t).1 = (exec (x >>= f) s).1
      ∧ R (exec (x >>= f) s).2 (exec (x >>= f) t).2 := by
  simp only [← agreeUntil_never] at hx hf ⊢
  exact hx.bind hf

end

/-- What is made of a result. -/
lemma exec_bind_pure (x : Action α) (f : α → β) (s : Session) :
    (exec (x >>= fun a => pure (f a)) s).1 = (exec x s).1.map f := by
  rw [exec_bind]
  rcases exec x s with ⟨_ | _, s'⟩ <;> rfl

end Action

/-! ## Attempts to record a decision -/

/-- What is reported when a decision could not be recorded.  Nothing is, if something escapes. -/
def AuditRecord.failures (r : AuditRecord) : Except AuditFault Unit → List Event
  | .ok () => []
  | .error fault =>
    match fault.text with
    | .ok message => [.auditFailed r.applicationId message]
    | .error _ => []

/-- How the work goes on after an attempt to record a decision, with the given result: it breaks off
if something escapes. -/
def AuditTrail.goOn {α : Type} (a : α) : Except AuditFault Unit → Except Fault α
  | .ok () => .ok a
  | .error fault =>
    match fault.text with
    | .ok _ => .ok a
    | .error raised => .error (.recorder raised)

/-- A fault that is what escaped from a recorder. -/
def Fault.IsEscape (fault : Fault) : Prop := ∃ raised, fault = .recorder raised

lemma AuditTrail.eq_of_goOn_eq_ok {α : Type} {a b : α} {outcome : Except AuditFault Unit}
    (h : goOn a outcome = .ok b) : b = a := by
  obtain fault | ⟨⟩ := outcome
  · rw [goOn] at h
    split at h <;> cases h
    rfl
  · cases h
    rfl

lemma AuditTrail.exists_of_goOn_eq_error {α : Type} {a : α} {outcome : Except AuditFault Unit}
    {fault : Fault} (h : goOn a outcome = .error fault) :
    ∃ why raised, outcome = .error why ∧ why.text = .error raised ∧ fault = .recorder raised := by
  obtain why | ⟨⟩ := outcome
  · rw [goOn] at h
    split at h <;> cases h
    exact ⟨why, _, rfl, ‹_›, rfl⟩
  · cases h

namespace Session

open Shortlist.Action (exec)

variable (s : Session)

@[simp]
lemma exec_report (events : List Event) :
    exec (report events) s = (.ok (), { s with events := s.events ++ events }) := rfl

@[simp]
lemma exec_freshId (word : String) :
    exec (freshId word) s = (.ok (s.ids.fresh word).1, { s with ids := (s.ids.fresh word).2 }) :=
  rfl

@[simp]
lemma exec_askExtractor (extractor : Extractor) (documents : Documents) :
    exec (askExtractor extractor documents) s
      = (.ok (extractor.run s.asked documents), { s with asked := s.asked + 1 }) := rfl

@[simp]
lemma exec_ofStore {α : Type} (outcome : Except StoreFault α) :
    exec (ofStore outcome) s = (outcome.mapError .store, s) := by
  cases outcome <;> rfl

/-- Adding a vacancy changes the collection of vacancies and the files, or nothing. -/
lemma exec_insertVacancy (v : Vacancy) :
    exec (insertVacancy v) s = match s.store.vacancies.insert s.files v with
      | .ok (vacancies, files) => (.ok (), { s with files, store := { s.store with vacancies } })
      | .error fault => (.error (.store fault), s) := by
  rw [insertVacancy, Action.exec_bind_ok (Action.exec_get s), Action.exec_bind, exec_ofStore]
  cases s.store.vacancies.insert s.files v <;> rfl

/-- Adding an application changes the collection of applications and the files, or nothing. -/
lemma exec_insertApplication (a : Application) :
    exec (insertApplication a) s = match s.store.applications.insert s.files a with
      | .ok (applications, files) =>
        (.ok (), { s with files, store := { s.store with applications } })
      | .error fault => (.error (.store fault), s) := by
  rw [insertApplication, Action.exec_bind_ok (Action.exec_get s), Action.exec_bind, exec_ofStore]
  cases s.store.applications.insert s.files a <;> rfl

/-- Recording a decision changes the trail, its file and the events.  What goes wrong with it is
reported, unless it escapes. -/
lemma exec_record (r : AuditRecord) :
    exec (record r) s
      = (AuditTrail.goOn () (s.audit.append s.files r).2.2, { s with
          files := (s.audit.append s.files r).2.1, audit := (s.audit.append s.files r).1,
          events := s.events ++ r.failures (s.audit.append s.files r).2.2 }) := by
  rw [record, Action.exec_bind_ok (Action.exec_get s)]
  rcases s.audit.append s.files r with ⟨audit, files, fault | _⟩
  · rw [AuditRecord.failures, AuditTrail.goOn]
    dsimp only
    rw [Action.exec_bind_ok (Action.exec_set _ s)]
    cases fault.text with
    | ok message => rfl
    | error raised => simp only [List.append_nil, Action.exec_throw]
  · simp only [AuditRecord.failures, List.append_nil]
    rfl

lemma exec_readFile (p : Path) :
    exec (readFile p) s = match s.files.read p with
      | .ok content => (.ok content, s)
      | .error o => (.error (.obstructed o), s) := by
  rw [readFile, Action.exec_bind_ok (Action.exec_get s)]
  cases s.files.read p <;> rfl

lemma exec_changeFiles (change : Tree → Except Obstructed Tree) :
    exec (changeFiles change) s = match change s.files with
      | .ok files => (.ok (), { s with files })
      | .error o => (.error (.obstructed o), s) := by
  rw [changeFiles, Action.exec_bind_ok (Action.exec_get s)]
  cases change s.files <;> rfl

end Session

end Shortlist
