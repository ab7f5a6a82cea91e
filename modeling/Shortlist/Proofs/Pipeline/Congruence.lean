import Shortlist.Proofs.Batch.Run
import Shortlist.Proofs.Pipeline.Errand

/-!
# Relations that errands respect

A pipeline works in few kinds of single steps: it reports, draws an id, asks the extractor, looks
into the store, adds a vacancy, settles a ruling, and reads and writes files.  A relation between
sessions that each of these respects (`IsRespected`) is respected by every errand, and so by every
run of errands: what comes back is the same, and the sessions stay related.  A step of the second
session may also break off, as it does when something escapes from an audit trail; then the two are
compared no further.

With two different sessions this compares two pipelines.  With one session on both sides it says
that errands preserve what the single steps preserve (`IsInvariant.run`).
-/

namespace Shortlist

open Shortlist.Action (exec exec_bind_ok)

/-- An event that says neither that a decision was made nor that one could not be recorded. -/
def Event.IsQuiet : Event → Prop
  | .applicationDecided .. | .auditFailed .. => False
  | _ => True

/-- What an extractor reports is quiet. -/
lemma Extractor.isQuiet_run (extractor : Extractor) (asked : Nat) (documents : Documents) :
    ∀ e ∈ (extractor.run asked documents).1, e.IsQuiet := by
  have hsettle (extracted : Extracted) : ∀ e ∈ extracted.settle.1, e.IsQuiet := by
    cases extracted with
    | failed failure =>
      rw [Extracted.settle]
      cases failure.text <;> simp [Event.IsQuiet]
    | value v =>
      rw [Extracted.settle.eq_def]
      cases v with
      | null => simp
      | _ => dsimp only; split <;> simp
    | _ => simp [Extracted.settle]
  intro e he
  rw [run] at he
  rcases List.mem_append.1 he with he | he
  · cases extractor with
    | standard defaults =>
      rw [extract] at he
      cases hfacts : documents.facts with
      | none =>
        rw [hfacts] at he
        rw [List.mem_singleton.1 he]
        trivial
      | some facts =>
        rw [hfacts] at he
        cases he
    | answering behaviour => cases he
  · exact hsettle _ e he

namespace Action

variable {α β : Type} {R : Session → Session → Prop} {breaks : Fault → Prop}

/-- An action that comes to the same outcome in related sessions, which are related afterwards, too,
unless it breaks off in the second one. -/
def Respects (R : Session → Session → Prop) (breaks : Fault → Prop) (x : Action α) : Prop :=
  ∀ s t, R s t → AgreeUntil R breaks (exec x s) (exec x t)

lemma Respects.bind {x : Action α} {f : α → Action β} (hx : x.Respects R breaks)
    (hf : ∀ a, (f a).Respects R breaks) : (x >>= f).Respects R breaks :=
  fun s t h => (hx s t h).bind fun a s' t' _ h' => hf a s' t' h'

lemma respects_pure (a : α) : (pure a : Action α).Respects R breaks :=
  fun _ _ h => .of_eq nofun ⟨rfl, h⟩

lemma respects_lift {outcome : Except Fault α}
    (hstands : ∀ fault, outcome = .error fault → ¬breaks fault) :
    Respects R breaks (ExceptT.mk (pure outcome) : Action α) :=
  fun _ _ h => .of_eq hstands ⟨rfl, h⟩

lemma respects_throw {fault : Fault} (hstands : ¬breaks fault) :
    (throw fault : Action α).Respects R breaks :=
  respects_lift fun fault' h => by
    cases h
    exact hstands

end Action

open Shortlist.Action (AgreeUntil Respects respects_pure respects_throw respects_lift)

/-- The store looks the same in two sessions. -/
structure Session.ShowsAlike (s t : Session) : Prop where
  vacancy : ∀ id, t.store.vacancies.get? t.files id = s.store.vacancies.get? s.files id
  vacancies : t.store.vacancies.toList t.files = s.store.vacancies.toList s.files
  applications : t.store.applications.toList t.files = s.store.applications.toList s.files
  filter : ∀ condition,
    t.store.applications.filter t.files condition = s.store.applications.filter s.files condition

lemma Session.ShowsAlike.refl (s : Session) : s.ShowsAlike s :=
  ⟨fun _ => rfl, rfl, rfl, fun _ => rfl⟩

/-- A ruling that was made in a session, on documents of a scope. -/
def Session.HasRuled (setup : Setup) (now : Instant) (scope : Scope) (s : Session)
    (ruling : Ruling) : Prop :=
  ∃ s₀ vacancyId applicantId documents v, scope.documents documents ∧ Pipeline.Untouched s₀ s
    ∧ Pipeline.IsRuling setup now s₀ vacancyId applicantId documents v ruling

/-- A relation between sessions that each single step of a pipeline respects, at some time and
within a scope.  If anything breaks off in the second session, it is what escapes from the audit
trail. -/
structure IsRespected (setup : Setup) (now : Instant) (scope : Scope)
    (R : Session → Session → Prop) (breaks : Fault → Prop) : Prop where
  escapes : ∀ fault, breaks fault → fault.IsEscape
  showsAlike : ∀ s t, R s t → s.ShowsAlike t
  report : ∀ events, (∀ e ∈ events, e.IsQuiet) → (Session.report events).Respects R breaks
  freshId : ∀ word, (Session.freshId word).Respects R breaks
  askExtractor : ∀ documents,
    (Session.askExtractor setup.extractor documents).Respects R breaks
  insertVacancy : ∀ v, (Session.insertVacancy v).Respects R breaks
  settle : ∀ s t ruling, R s t → s.HasRuled setup now scope ruling →
    AgreeUntil R breaks (exec (Pipeline.settle ruling) s) (exec (Pipeline.settle ruling) t)
  readFile : ∀ p, scope.reads p → (Session.readFile p).Respects R breaks
  makeDirectories : ∀ p, scope.writes p →
    (Session.changeFiles (·.makeDirectories p.parent)).Respects R breaks
  write : ∀ p content, scope.writes p →
    (Session.changeFiles (·.write p content)).Respects R breaks

namespace IsRespected

open Pipeline

variable {setup : Setup} {now : Instant} {scope : Scope} {R : Session → Session → Prop}
  {breaks : Fault → Prop} (h : IsRespected setup now scope R breaks)
include h

/-- Nothing breaks off but by what escapes from the audit trail. -/
lemma stands {fault : Fault} (hfault : ∀ raised, fault ≠ .recorder raised) : ¬breaks fault := by
  intro hbreaks
  obtain ⟨raised, heq⟩ := h.escapes fault hbreaks
  exact hfault raised heq

lemma throw {α : Type} {fault : Fault} (hfault : ∀ raised, fault ≠ .recorder raised) :
    (throw fault : Action α).Respects R breaks := respects_throw (h.stands hfault)

lemma ofStore {α : Type} (outcome : Except StoreFault α) :
    (Session.ofStore outcome).Respects R breaks := by
  cases outcome with
  | error fault => exact h.throw (by simp)
  | ok a => exact respects_pure a

/-! ## Submissions -/

theorem openSubmission (vacancyId : Text) (applicantId : Option Text) (documents : Documents) :
    (openSubmission vacancyId applicantId documents).Respects R breaks := by
  intro s t hst
  rw [Pipeline.openSubmission, exec_bind_ok (Action.exec_get s), exec_bind_ok (Action.exec_get t),
    (h.showsAlike s t hst).vacancy]
  refine (h.ofStore _).bind (fun found => ?_) s t hst
  cases found with
  | none => exact (h.report _ (by simp [Event.IsQuiet])).bind fun _ => h.throw (by simp)
  | some v => exact respects_pure _

lemma judge (submission : OpenSubmission)
    {extracted : List Event × Except ExtractionFault Facts}
    (hquiet : ∀ e ∈ extracted.1, e.IsQuiet) :
    (judge setup now submission extracted).Respects R breaks := by
  refine (h.report _ hquiet).bind fun _ => ?_
  cases extracted.2 with
  | error fault => exact h.throw (by simp)
  | ok facts =>
    dsimp only
    cases Decision.ofFacts setup now submission.vacancy.requirements facts with
    | error fault => exact h.throw (by simp)
    | ok decision =>
      have hid : (applicationId setup.applicationIds).Respects R breaks := by
        cases setup.applicationIds with
        | drawn => exact h.freshId _
        | always id => exact respects_pure _
      have hfeedback : ∀ fault, decision.feedback = .error fault → ¬breaks fault := by
        intro fault hfault
        rw [Decision.feedback_eq_error hfault]
        exact h.stands (by simp)
      exact hid.bind fun id => (respects_lift hfeedback).bind fun feedback => respects_pure _

lemma rule (vacancyId : Text) (applicantId : Option Text) (documents : Documents) :
    (rule setup now vacancyId applicantId documents).Respects R breaks := by
  refine (h.openSubmission _ _ _).bind fun submission s t hst => ?_
  refine (h.askExtractor documents s t hst).bind fun extracted s' t' hasked hst' =>
    h.judge submission ?_ s' t' hst'
  rw [Session.exec_askExtractor] at hasked
  cases hasked
  exact Extractor.isQuiet_run _ _ _

lemma createApplication (vacancyId : Text) (applicantId : Option Text) {documents : Documents}
    (hdocuments : scope.documents documents) :
    (createApplication setup now vacancyId applicantId documents).Respects R breaks := by
  intro s t hst
  rw [createApplication_eq]
  refine (h.rule vacancyId applicantId documents s t hst).bind fun ruling s' t' hrule hst' =>
    h.settle s' t' ruling hst' ?_
  have hquiet := isQuiet_rule setup now vacancyId applicantId documents s
  rw [hrule] at hquiet
  obtain ⟨v, hruling⟩ := isRuling_of_rule hrule
  exact ⟨s, vacancyId, applicantId, documents, v, hdocuments, hquiet, hruling⟩

lemma submit {payload : Payload} (hwithin : (Errand.submit payload).IsWithin scope) :
    (payload.submit setup now).Respects R breaks := by
  rw [payload.submit_eq, submitDocument]
  cases hread : Submission.read payload.value with
  | refused issues => exact h.throw (by simp)
  | broken fault => exact h.throw (by simp)
  | accepted submission => exact h.createApplication _ _ (hwithin submission hread)

/-! ## Vacancies -/

lemma registerVacancy (draft : VacancyDraft) : (registerVacancy now draft).Respects R breaks :=
  (h.freshId _).bind fun _ => (h.insertVacancy _).bind fun _ =>
    (h.report _ (by simp [Event.IsQuiet])).bind fun _ => respects_pure _

lemma createVacancy (document : Value) : (createVacancy now document).Respects R breaks := by
  rw [Pipeline.createVacancy]
  cases VacancyDraft.read document with
  | refused issues => exact h.throw (by simp)
  | broken fault => exact h.throw (by simp)
  | accepted draft => exact h.registerVacancy draft

/-! ## Batches -/

lemma registerFile {p : Path} (hp : scope.reads p) : (registerFile now p).Respects R breaks := by
  refine (h.readFile p hp).bind fun content => ?_
  cases readVacancyFile content with
  | ok document => exact h.createVacancy document
  | error fault => cases fault <;> exact h.throw (by simp)

lemma loadApplications {p : Path} (hp : scope.reads p) :
    (loadApplications p).Respects R breaks := by
  refine (h.readFile p hp).bind fun content => ?_
  cases ApplicationsFile.read content with
  | error fault => exact h.throw (by simp)
  | ok file =>
    dsimp only
    split
    · exact (h.report _ (by simp [Event.IsQuiet])).bind fun _ => respects_pure _
    · exact respects_pure _

lemma decideEntries (vacancyId : Text) (number : Nat) {entries : List BatchEntry}
    (hentries : ∀ entry ∈ entries, scope.documents entry.documents) :
    (decideEntries setup now vacancyId number entries).Respects R breaks := by
  induction entries generalizing number with
  | nil => exact respects_pure _
  | cons entry rest ih =>
    have hrest := ih (number + 1) fun e he => hentries e (List.mem_cons_of_mem _ he)
    rw [Pipeline.decideEntries]
    cases entry.vacancyId.filter (· ≠ vacancyId) with
    | some other =>
      exact (h.report _ (by simp [Event.IsQuiet])).bind fun _ =>
        hrest.bind fun _ => respects_pure _
    | none =>
      refine (h.createApplication _ _ (hentries entry List.mem_cons_self)).bind
        fun application => ?_
      refine Respects.bind ?_ fun _ => hrest.bind fun _ => respects_pure _
      rw [checkReducible]
      cases Record.dump? application with
      | ok _ => exact respects_pure ()
      | error fault => exact h.throw (by simp)

lemma writeOutput {p : Path} (hp : scope.writes p) (v : Value) :
    (writeOutput p v).Respects R breaks := by
  refine (h.makeDirectories p hp).bind fun _ => ?_
  cases Json.document .page v with
  | error fault => exact h.throw (by simp)
  | ok t =>
    refine (h.write p [] hp).bind fun _ => ?_
    cases t.encode with
    | error fault => exact h.throw (by simp)
    | ok bytes => exact h.write p bytes hp

lemma runBatch {paths : BatchPaths} (hwithin : (Errand.runBatch paths).IsWithin scope) :
    (runBatch setup now paths).Respects R breaks := by
  obtain ⟨hvacancy, happlications, houtput⟩ := hwithin
  refine (h.registerFile hvacancy).bind fun vacancy s t hst => ?_
  refine (h.loadApplications happlications s t hst).bind fun file s' t' hload hst' => ?_
  obtain ⟨content, -, hread, -⟩ := exec_loadApplications_ok hload
  have hentries : ∀ entry ∈ file.entries, scope.documents entry.documents := fun entry hentry =>
    scope.documents_of_hasDecodedFacts _ (ApplicationsFile.hasDecodedFacts_of_read hread hentry)
  exact (h.decideEntries vacancy.id 1 hentries).bind
    (fun _ => (h.writeOutput houtput _).bind fun _ => respects_pure _) s' t' hst'

/-! ## Looking into the store -/

lemma listVacancies : listVacancies.Respects R breaks := by
  intro s t hst
  rw [Pipeline.listVacancies, exec_bind_ok (Action.exec_get s), exec_bind_ok (Action.exec_get t),
    (h.showsAlike s t hst).vacancies]
  exact h.ofStore _ s t hst

lemma getVacancy (vacancyId : Text) : (getVacancy vacancyId).Respects R breaks := by
  intro s t hst
  rw [Pipeline.getVacancy, exec_bind_ok (Action.exec_get s), exec_bind_ok (Action.exec_get t),
    (h.showsAlike s t hst).vacancy]
  refine (h.ofStore _).bind (fun found => ?_) s t hst
  cases found with
  | none => exact h.throw (by simp)
  | some v => exact respects_pure _

lemma listApplications (vacancyId : Option Text) :
    (listApplications vacancyId).Respects R breaks := by
  intro s t hst
  have halike := h.showsAlike s t hst
  rw [Pipeline.listApplications, exec_bind_ok (Action.exec_get s),
    exec_bind_ok (Action.exec_get t)]
  cases vacancyId with
  | none =>
    dsimp only
    rw [halike.applications]
    exact h.ofStore _ s t hst
  | some id =>
    dsimp only
    rw [halike.filter]
    exact h.ofStore _ s t hst

/-! ## Errands -/

/-- Every errand within the scope respects what the single steps respect. -/
lemma action {errand : Errand} (hwithin : errand.IsWithin scope) :
    (errand.action setup now).Respects R breaks := by
  cases errand with
  | createVacancy document => exact (h.createVacancy document).bind fun _ => respects_pure _
  | registerVacancy draft => exact (h.registerVacancy draft).bind fun _ => respects_pure _
  | submit payload => exact (h.submit hwithin).bind fun _ => respects_pure _
  | runBatch paths => exact (h.runBatch hwithin).bind fun _ => respects_pure _
  | listVacancies => exact h.listVacancies.bind fun _ => respects_pure _
  | getVacancy vacancyId => exact (h.getVacancy vacancyId).bind fun _ => respects_pure _
  | listApplications vacancyId =>
    exact (h.listApplications vacancyId).bind fun _ => respects_pure _
  | writeFile path content => exact (h.write path content hwithin).bind fun _ => respects_pure _

omit h in
/-- Every run of errands within the scope respects what the single steps respect at its times: it
gives the same replies in related sessions exactly if none of the second ones breaks off, and then
leaves related sessions behind. -/
lemma run {errands : List (Instant × Errand)}
    (h : ∀ e ∈ errands, IsRespected setup e.1 scope R breaks ∧ e.2.IsWithin scope) {s t : Session}
    (hst : R s t) :
    ((Errand.run setup errands t).1 = (Errand.run setup errands s).1
        ↔ ∀ fault, .error fault ∈ (Errand.run setup errands t).1 → ¬breaks fault)
      ∧ ((∀ fault, .error fault ∈ (Errand.run setup errands t).1 → ¬breaks fault) →
        R (Errand.after setup errands s) (Errand.after setup errands t)) := by
  induction errands generalizing s t with
  | nil => exact ⟨iff_of_true rfl nofun, fun _ => hst⟩
  | cons e rest ih =>
    obtain ⟨hrespected, hwithin⟩ := h e List.mem_cons_self
    have hfirst := hrespected.action hwithin s t hst
    have hrest := @ih fun e he => h e (List.mem_cons_of_mem _ he)
    simp only [Errand.after, Errand.run] at hrest ⊢
    rw [List.cons.injEq]
    by_cases hgoes : ∀ fault, (exec (e.2.action setup e.1) t).1 = .error fault → ¬breaks fault
    · obtain ⟨hreply, hst'⟩ := hfirst.agrees hgoes
      obtain ⟨hreplies, hlast⟩ := hrest hst'
      have hnone : (∀ fault, .error fault ∈ (exec (e.2.action setup e.1) t).1
            :: (Errand.run setup rest (exec (e.2.action setup e.1) t).2).1 → ¬breaks fault)
          ↔ ∀ fault, .error fault ∈
            (Errand.run setup rest (exec (e.2.action setup e.1) t).2).1 → ¬breaks fault := by
        simp only [List.mem_cons, or_imp, forall_and]
        exact and_iff_right fun fault heq => hgoes fault heq.symm
      rw [hnone, hreplies]
      exact ⟨and_iff_right hreply, fun hnone => hlast hnone⟩
    · -- the reply of the first session stands, so that of the second one is another one
      have hbroke : ¬∀ fault, .error fault ∈ (exec (e.2.action setup e.1) t).1
          :: (Errand.run setup rest (exec (e.2.action setup e.1) t).2).1 → ¬breaks fault :=
        fun hnone => hgoes fun fault heq => hnone fault (heq ▸ List.mem_cons_self)
      refine ⟨iff_of_false (fun heq => hgoes fun fault hfault => ?_) hbroke, fun hnone =>
        absurd hnone hbroke⟩
      exact hfirst.stands fault (heq.1.symm.trans hfault)

end IsRespected

/-! ## Invariants -/

/-- What each single step of a pipeline preserves, at some time and within a scope: one that changes
neither the store nor the files and reports nothing about decisions, an addition to the vacancies, a
ruling that is settled, and one that touches no files but those along the path of an output. -/
structure IsInvariant (setup : Setup) (now : Instant) (scope : Scope) (I : Session → Prop) :
    Prop where
  quiet : ∀ s s' events, Pipeline.Untouched s s' → s'.events = s.events ++ events →
    (∀ e ∈ events, e.IsQuiet) → I s → I s'
  vacancy : ∀ s v vacancies files, s.store.vacancies.insert s.files v = .ok (vacancies, files) →
    I s → I { s with files, store := { s.store with vacancies } }
  application : ∀ s ruling applications files,
    s.store.applications.insert s.files ruling.application = .ok (applications, files) →
    s.HasRuled setup now scope ruling → I s → I (s.settled ruling applications files)
  output : ∀ s p files, scope.writes p → Tree.SameOff p s.files files → I s → I { s with files }

namespace IsInvariant

variable {setup : Setup} {now : Instant} {scope : Scope} {I : Session → Prop}

section

variable {breaks : Fault → Prop} (hescapes : ∀ fault, breaks fault → fault.IsEscape)
include hescapes

/-- A relation of sessions with themselves is respected by an action that preserves what is related
and from which nothing escapes. -/
lemma respects_of_exec {α : Type} {x : Action α} (h : ∀ s, I s → I (exec x s).2)
    (hstands : ∀ s fault, (exec x s).1 = .error fault → ¬fault.IsEscape) :
    x.Respects (fun s t => s = t ∧ I s) breaks := by
  rintro s _ ⟨rfl, hs⟩
  exact .of_eq (fun fault hfault hbreaks => hstands s fault hfault (hescapes fault hbreaks))
    ⟨rfl, rfl, h s hs⟩

lemma changeFiles (h : IsInvariant setup now scope I) {p : Path} (hp : scope.writes p)
    {change : Tree → Except Obstructed Tree}
    (hchange : ∀ t t', change t = .ok t' → Tree.SameOff p t t') :
    (Session.changeFiles change).Respects (fun s t => s = t ∧ I s) breaks := by
  refine respects_of_exec hescapes (fun s hs => ?_) fun s fault => ?_
  all_goals
    rw [Session.exec_changeFiles]
    cases hchanged : change s.files
  · exact hs
  · exact h.output s p _ hp (hchange _ _ hchanged) hs
  · rintro ⟨⟩ ⟨raised, ⟨⟩⟩
  · rintro ⟨⟩

/-- What the single steps preserve is respected by them, if nothing that breaks off escapes when a
ruling is settled. -/
lemma isRespected (h : IsInvariant setup now scope I)
    (hstands : ∀ s ruling fault, I s → (exec (Pipeline.settle ruling) s).1 = .error fault →
      ¬breaks fault) :
    IsRespected setup now scope (fun s t => s = t ∧ I s) breaks where
  escapes := hescapes
  showsAlike := by
    rintro s _ ⟨rfl, -⟩
    exact .refl s
  report events hquiet :=
    respects_of_exec hescapes (fun s hs => h.quiet s _ events ⟨rfl, rfl, rfl⟩ rfl hquiet hs)
      fun _ _ hfault => by cases hfault
  freshId word :=
    respects_of_exec hescapes (fun s hs => h.quiet s _ [] ⟨rfl, rfl, rfl⟩ (by simp) (by simp) hs)
      fun _ _ hfault => by cases hfault
  askExtractor documents :=
    respects_of_exec hescapes (fun s hs => h.quiet s _ [] ⟨rfl, rfl, rfl⟩ (by simp) (by simp) hs)
      fun _ _ hfault => by cases hfault
  insertVacancy v := by
    refine respects_of_exec hescapes (fun s hs => ?_) fun s fault => ?_
    all_goals
      rw [Session.exec_insertVacancy]
      cases hinsert : s.store.vacancies.insert s.files v
    · exact hs
    · exact h.vacancy s v _ _ hinsert hs
    · rintro ⟨⟩ ⟨raised, ⟨⟩⟩
    · rintro ⟨⟩
  -- the one step that may break off
  settle := by
    rintro s _ ruling ⟨rfl, hs⟩ hruled
    refine .of_eq (fun fault hfault => hstands s ruling fault hs hfault) ⟨rfl, rfl, ?_⟩
    cases hinsert : s.store.applications.insert s.files ruling.application with
    | error fault =>
      rw [Pipeline.exec_settle_of_error hinsert]
      exact hs
    | ok inserted =>
      rw [Pipeline.exec_settle_eq ruling hinsert]
      exact h.application s ruling _ _ hinsert hruled hs
  readFile p _ := by
    refine respects_of_exec hescapes (fun s hs => ?_) fun s fault => ?_
    all_goals
      rw [Session.exec_readFile]
      cases s.files.read p
    · exact hs
    · exact hs
    · rintro ⟨⟩ ⟨raised, ⟨⟩⟩
    · rintro ⟨⟩
  makeDirectories p hp := h.changeFiles hescapes hp fun t t' hmake =>
    (Tree.sameOff_makeDirectories hmake).mono rfl (List.dropLast_prefix _)
  write p content hp := h.changeFiles hescapes hp fun t t' hwrite => Tree.sameOff_write hwrite

end

lemma isRespected_never (h : IsInvariant setup now scope I) :
    IsRespected setup now scope (fun s t => s = t ∧ I s) fun _ => False :=
  h.isRespected (fun _ => False.elim) fun _ _ _ _ _ => id

/-- Every run of errands within the scope preserves what the single steps preserve at its times. -/
theorem run {errands : List (Instant × Errand)}
    (h : ∀ e ∈ errands, IsInvariant setup e.1 scope I ∧ e.2.IsWithin scope) {s : Session}
    (hs : I s) : I (Errand.after setup errands s) :=
  ((IsRespected.run (fun e he => ⟨(h e he).1.isRespected_never, (h e he).2⟩) ⟨rfl, hs⟩).2
    fun _ _ => id).2

end IsInvariant

end Shortlist
