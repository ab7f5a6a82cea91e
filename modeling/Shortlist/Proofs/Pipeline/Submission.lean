import Shortlist.Pipeline.Basic
import Shortlist.Proofs.Audit
import Shortlist.Proofs.Outcome
import Shortlist.Proofs.Pipeline.Action

/-!
# Submissions

The work of a submission falls into two parts.  `Pipeline.rule` looks up the vacancy, asks for the
facts, judges and draws the id; it changes neither the store nor the files (`isQuiet_rule`).
`Pipeline.settle` adds the application to the store and then only reports and records.  So
whatever goes wrong goes wrong before anything is stored, or is the store's own refusal, or has
escaped from the audit trail after the application was stored (`exec_createApplication_cases`).

`IsRuling` says what the first part comes to when nothing goes wrong.
-/

namespace Shortlist

lemma Status.eq_rejected_of_ne {status : Status} (h : status ≠ .accepted) : status = .rejected := by
  cases status with
  | accepted => exact absurd rfl h
  | rejected => rfl

namespace Decision

variable {d : Decision} {feedback : Option Text}

lemma status_eq_accepted : d.status = .accepted ↔ d.evaluation.satisfied = true := by
  rw [status]
  split
  · rename_i hmet
    exact iff_of_true rfl hmet
  · rename_i hmet
    exact iff_of_false (by decide) hmet

/-- Feedback is missing only where there is no separator for the reasons. -/
lemma feedback_eq_error {fault : Fault} (h : d.feedback = .error fault) : fault = .noSeparator := by
  rw [Decision.feedback] at h
  split at h
  · cases h
  · split at h <;> cases h
    rfl

/-- Candidates who are not accepted are told the reasons. -/
lemma feedback_of_rejected (h : d.feedback = .ok feedback) (hrejected : d.status = .rejected) :
    ∃ separator, d.separator = some separator
      ∧ feedback = some (separator.join d.evaluation.reasons) := by
  have hnot : ¬d.evaluation.satisfied = true := fun hmet => by
    rw [status_eq_accepted.2 hmet] at hrejected
    cases hrejected
  rw [Decision.feedback, if_neg hnot] at h
  split at h <;> cases h
  exact ⟨_, ‹_›, rfl⟩

/-- Candidates who are accepted are told nothing, and only they. -/
lemma accepted_iff_silent (h : d.feedback = .ok feedback) :
    d.status = .accepted ↔ feedback = none := by
  refine ⟨fun haccepted => ?_, fun hsilent => ?_⟩
  · rw [Decision.feedback, if_pos (status_eq_accepted.1 haccepted)] at h
    exact (Except.ok.inj h).symm
  · by_contra hnot
    obtain ⟨separator, -, htold⟩ := feedback_of_rejected h (Status.eq_rejected_of_ne hnot)
    cases hsilent.symm.trans htold

end Decision

/-- An application that is ready to be stored, with the verdicts and the facts that they rest on. -/
structure Ruling where
  application : Application
  evaluation : Evaluation
  facts : Facts

/-- The record of a ruling in an audit trail. -/
def Ruling.record (ruling : Ruling) : AuditRecord :=
  .ofDecision ruling.application ruling.evaluation ruling.facts

/-- What is reported about a decision. -/
def AuditRecord.decided (r : AuditRecord) : Event :=
  .applicationDecided r.applicationId r.vacancyId r.status.name r.reasons.length

/-- The session after a ruling has been added to the applications. -/
def Session.settled (s : Session) (ruling : Ruling) (applications : Collection Application)
    (files : Tree) : Session :=
  { s with
    store := { s.store with applications }
    files := (s.audit.append files ruling.record).2.1
    audit := (s.audit.append files ruling.record).1
    events := s.events ++ ruling.record.decided
      :: ruling.record.failures (s.audit.append files ruling.record).2.2 }

/-- The next id of an application, and where the ids after it come from. -/
def ApplicationIds.next : ApplicationIds → IdSource → String × IdSource
  | .drawn, ids => ids.fresh "app"
  | .always id, ids => (id, ids)

/-- An open submission with the decision on it. -/
def OpenSubmission.decided (submission : OpenSubmission) (now : Instant) (id : Text) (facts : Facts)
    (decision : Decision) (feedback : Option Text) : Application :=
  { id, applicantId := submission.applicantId, vacancyId := submission.vacancy.id,
    documents := { submission.documents with facts := some facts },
    status := decision.status, feedback, createdAt := Pipeline.timeText now }

/-- A session in memory with one vacancy, to which nobody has applied. -/
def Session.withVacancy (v : Vacancy) : Session where
  files := ⟨[], []⟩
  store := ⟨.memory ⟨[v], ({} : Std.HashMap Text Vacancy).insert v.id v⟩, .memory .empty⟩

lemma Session.get?_withVacancy (v : Vacancy) :
    (withVacancy v).store.vacancies.get? (withVacancy v).files v.id = .ok (some v) := by
  simp [withVacancy, Collection.get?, MemoryCollection.get?]

lemma Session.insert_withVacancy (v : Vacancy) (a : Application) :
    (withVacancy v).store.applications.insert (withVacancy v).files a
      = .ok (.memory ⟨[a], ({} : Std.HashMap Text Application).insert a.id a⟩,
          (withVacancy v).files) := by
  simp only [withVacancy, Collection.insert, MemoryCollection.insert, MemoryCollection.empty,
    Std.HashMap.contains_empty]
  rfl

namespace Pipeline

open Session
open Shortlist.Action (exec exec_bind exec_bind_ok exec_bind_error)

lemma exec_ofCheck_ok {α : Type} {subject : Subject} {check : Check α} {a : α} {s s' : Session}
    (h : exec (ofCheck subject check) s = (.ok a, s')) : check = .accepted a ∧ s' = s := by
  cases check with
  | accepted a =>
    cases h
    exact ⟨rfl, rfl⟩
  | refused issues => cases h
  | broken fault => cases h

/-- Draws the id of an application and writes the decision down. -/
def draw (setup : Setup) (now : Instant) (submission : OpenSubmission) (facts : Facts)
    (decision : Decision) : Action Ruling := do
  let id ← applicationId setup.applicationIds
  let feedback ← ExceptT.mk (pure decision.feedback)
  let application : Application :=
    { id, applicantId := submission.applicantId, vacancyId := submission.vacancy.id,
      documents := { submission.documents with facts := some facts },
      status := decision.status, feedback, createdAt := timeText now }
  return ⟨application, decision.evaluation, facts⟩

/-- Judges an open submission by what the extractor came back with. -/
def judge (setup : Setup) (now : Instant) (submission : OpenSubmission)
    (extracted : List Event × Except ExtractionFault Facts) : Action Ruling := do
  report extracted.1
  match extracted.2 with
  | .error fault => throw (.extraction fault)
  | .ok facts =>
    match Decision.ofFacts setup now submission.vacancy.requirements facts with
    | .error fault => throw (.unjudgeable fault)
    | .ok decision => draw setup now submission facts decision

/-- The first part of a submission, which changes neither the store nor the files. -/
def rule (setup : Setup) (now : Instant) (vacancyId : Text) (applicantId : Option Text)
    (documents : Documents) : Action Ruling := do
  let submission ← openSubmission vacancyId applicantId documents
  let extracted ← askExtractor setup.extractor documents
  judge setup now submission extracted

/-- The second part of a submission. -/
def settle (ruling : Ruling) : Action Application := do
  insertApplication ruling.application
  report [.applicationDecided ruling.application.id ruling.application.vacancyId
    ruling.application.status.name ruling.evaluation.reasons.length]
  record (.ofDecision ruling.application ruling.evaluation ruling.facts)
  return ruling.application

lemma conclude_eq (setup : Setup) (now : Instant) (submission : OpenSubmission) (facts : Facts)
    (decision : Decision) :
    conclude setup now submission facts decision
      = draw setup now submission facts decision >>= settle := by
  simp only [conclude, draw, settle, bind_assoc, pure_bind]

lemma decide_eq (setup : Setup) (now : Instant) (submission : OpenSubmission)
    (extracted : List Event × Except ExtractionFault Facts) :
    decide setup now submission extracted = judge setup now submission extracted >>= settle := by
  rw [decide, judge, bind_assoc]
  congr 1
  funext _
  cases extracted.2 with
  | error fault => rfl
  | ok facts =>
    dsimp only
    cases Decision.ofFacts setup now submission.vacancy.requirements facts with
    | error fault => rfl
    | ok decision => exact conclude_eq setup now submission facts decision

/-- A submission is its two parts. -/
lemma createApplication_eq (setup : Setup) (now : Instant) (vacancyId : Text)
    (applicantId : Option Text) (documents : Documents) :
    createApplication setup now vacancyId applicantId documents
      = rule setup now vacancyId applicantId documents >>= settle := by
  simp only [createApplication, rule, decide_eq, bind_assoc]

/-! ## The first part -/

section

variable {setup : Setup} {now : Instant} {vacancyId : Text} {applicantId : Option Text}
  {documents : Documents} {s s' : Session} {ruling : Ruling}

/-- What stays as it is while it is ruled on a submission. -/
structure Untouched (s s' : Session) : Prop where
  store : s'.store = s.store
  files : s'.files = s.files
  audit : s'.audit = s.audit

lemma Untouched.refl (s : Session) : Untouched s s := ⟨rfl, rfl, rfl⟩

lemma Untouched.trans {s₁ s₂ s₃ : Session} (h : Untouched s₁ s₂) (h' : Untouched s₂ s₃) :
    Untouched s₁ s₃ :=
  ⟨h'.store.trans h.store, h'.files.trans h.files, h'.audit.trans h.audit⟩

/-- An action that leaves the store, the files and the trail as they are. -/
def IsQuiet {α : Type} (action : Action α) : Prop := ∀ s, Untouched s (exec action s).2

lemma IsQuiet.bind {α β : Type} {x : Action α} {f : α → Action β} (hx : IsQuiet x)
    (hf : ∀ a, IsQuiet (f a)) : IsQuiet (x >>= f) := by
  intro s
  rw [exec_bind]
  have h := hx s
  generalize exec x s = outcome at h ⊢
  obtain ⟨_ | a, s'⟩ := outcome
  · exact h
  · exact h.trans (hf a s')

lemma isQuiet_openSubmission (vacancyId : Text) (applicantId : Option Text)
    (documents : Documents) : IsQuiet (openSubmission vacancyId applicantId documents) := by
  intro s
  rw [openSubmission, exec_bind_ok (Action.exec_get s), exec_bind, exec_ofStore]
  rcases s.store.vacancies.get? s.files vacancyId with fault | _ | v <;>
    exact ⟨rfl, rfl, rfl⟩

lemma isQuiet_draw (setup : Setup) (now : Instant) (submission : OpenSubmission) (facts : Facts)
    (decision : Decision) : IsQuiet (draw setup now submission facts decision) := by
  have hid : IsQuiet (applicationId setup.applicationIds) := by
    intro s
    cases setup.applicationIds <;> exact ⟨rfl, rfl, rfl⟩
  exact hid.bind fun id => IsQuiet.bind (fun s => .refl s) fun feedback s => .refl s

lemma isQuiet_judge (setup : Setup) (now : Instant) (submission : OpenSubmission)
    (extracted : List Event × Except ExtractionFault Facts) :
    IsQuiet (judge setup now submission extracted) := by
  refine IsQuiet.bind (fun _ => ⟨rfl, rfl, rfl⟩) fun _ => ?_
  cases extracted.2 with
  | error fault => exact Untouched.refl
  | ok facts =>
    dsimp only
    cases Decision.ofFacts setup now submission.vacancy.requirements facts with
    | error fault => exact Untouched.refl
    | ok decision => exact isQuiet_draw setup now submission facts decision

/-- Nothing is stored and no file is written before it has been ruled on a submission. -/
theorem isQuiet_rule (setup : Setup) (now : Instant) (vacancyId : Text) (applicantId : Option Text)
    (documents : Documents) : IsQuiet (rule setup now vacancyId applicantId documents) :=
  (isQuiet_openSubmission vacancyId applicantId documents).bind fun submission =>
    IsQuiet.bind (fun _ => ⟨rfl, rfl, rfl⟩) fun extracted =>
      isQuiet_judge setup now submission extracted

/-- What it comes to when a ruling on a submission is made: the vacancy is there, the extractor came
back with facts, every requirement of the vacancy was judged by them, and the application holds what
was submitted, the facts and the decision. -/
structure IsRuling (setup : Setup) (now : Instant) (s : Session) (vacancyId : Text)
    (applicantId : Option Text) (documents : Documents) (v : Vacancy) (ruling : Ruling) : Prop where
  vacancy : s.store.vacancies.get? s.files vacancyId = .ok (some v)
  extracted : (setup.extractor.run s.asked documents).2 = .ok ruling.facts
  evaluated : setup.panel.evaluate now ruling.facts v.requirements = .ok ruling.evaluation
  applicant : ruling.application.applicantId = applicantId
  vacancyId : ruling.application.vacancyId = v.id
  documents : ruling.application.documents = { documents with facts := some ruling.facts }
  status : ruling.application.status = Decision.status ⟨ruling.evaluation, setup.separator⟩
  feedback : Decision.feedback ⟨ruling.evaluation, setup.separator⟩
    = .ok ruling.application.feedback
  createdAt : ruling.application.createdAt = timeText now

lemma exec_openSubmission_ok {submission : OpenSubmission}
    (h : exec (openSubmission vacancyId applicantId documents) s = (.ok submission, s')) :
    ∃ v, s.store.vacancies.get? s.files vacancyId = .ok (some v)
      ∧ submission = ⟨v, applicantId, documents⟩ ∧ s' = s := by
  rw [openSubmission, exec_bind_ok (Action.exec_get s), exec_bind, exec_ofStore] at h
  rcases hget : s.store.vacancies.get? s.files vacancyId with fault | _ | v
  · rw [hget] at h
    cases h
  · rw [hget] at h
    cases h
  · rw [hget] at h
    cases h
    exact ⟨v, rfl, rfl, rfl⟩

lemma exec_draw_ok {submission : OpenSubmission} {facts : Facts} {decision : Decision}
    (h : exec (draw setup now submission facts decision) s = (.ok ruling, s')) :
    ∃ (id : String) (feedback : Option Text), decision.feedback = .ok feedback ∧ ruling =
      ⟨{ id, applicantId := submission.applicantId, vacancyId := submission.vacancy.id,
          documents := { submission.documents with facts := some facts },
          status := decision.status, feedback, createdAt := timeText now },
        decision.evaluation, facts⟩ := by
  rw [draw, Action.exec_bind_eq_ok] at h
  obtain ⟨id, s₁, -, h⟩ := h
  rw [Action.exec_bind_eq_ok] at h
  obtain ⟨feedback, s₂, hfeedback, h⟩ := h
  rw [Action.exec_lift] at hfeedback
  cases h
  exact ⟨id, feedback, (Prod.mk.inj hfeedback).1, rfl⟩

lemma exec_judge_ok {submission : OpenSubmission}
    {extracted : List Event × Except ExtractionFault Facts}
    (h : exec (judge setup now submission extracted) s = (.ok ruling, s')) :
    ∃ facts decision s₁, extracted.2 = .ok facts
      ∧ Decision.ofFacts setup now submission.vacancy.requirements facts = .ok decision
      ∧ exec (draw setup now submission facts decision) s₁ = (.ok ruling, s') := by
  rw [judge, exec_bind_ok (exec_report _ _)] at h
  cases hfacts : extracted.2 with
  | error fault =>
    rw [hfacts] at h
    cases h
  | ok facts =>
    rw [hfacts] at h
    dsimp only at h
    cases hdecision : Decision.ofFacts setup now submission.vacancy.requirements facts with
    | error fault =>
      rw [hdecision] at h
      cases h
    | ok decision =>
      rw [hdecision] at h
      exact ⟨facts, decision, _, rfl, hdecision, h⟩

/-- A submission on which a ruling is made has a vacancy. -/
lemma isRuling_of_rule
    (h : exec (rule setup now vacancyId applicantId documents) s = (.ok ruling, s')) :
    ∃ v, IsRuling setup now s vacancyId applicantId documents v ruling := by
  rw [rule, Action.exec_bind_eq_ok] at h
  obtain ⟨submission, s₁, hopen, h⟩ := h
  obtain ⟨v, hget, rfl, rfl⟩ := exec_openSubmission_ok hopen
  rw [exec_bind_ok (exec_askExtractor _ _ _)] at h
  obtain ⟨facts, decision, s₂, hfacts, hdecision, hdraw⟩ := exec_judge_ok h
  obtain ⟨e, heval, rfl⟩ := Except.map_eq_ok.1 hdecision
  obtain ⟨id, feedback, hfeedback, rfl⟩ := exec_draw_ok hdraw
  exact ⟨v, hget, hfacts, heval, rfl, rfl, rfl, rfl, hfeedback, rfl⟩

/-! ## The second part -/

/-- A ruling that the store refuses changes nothing. -/
lemma exec_settle_of_error {fault : StoreFault}
    (h : s.store.applications.insert s.files ruling.application = .error fault) :
    exec (settle ruling) s = (.error (.store fault), s) := by
  rw [settle, exec_bind, exec_insertApplication, h]

/-- A ruling that the store takes is settled: it is added, reported and recorded.  The application
comes back unless something escapes from the trail. -/
lemma exec_settle_eq (ruling : Ruling) {applications : Collection Application} {files : Tree}
    (h : s.store.applications.insert s.files ruling.application = .ok (applications, files)) :
    exec (settle ruling) s
      = (AuditTrail.goOn ruling.application (s.audit.append files ruling.record).2.2,
          s.settled ruling applications files) := by
  rw [settle, exec_bind, exec_insertApplication, h]
  dsimp only
  rw [exec_bind_ok (exec_report _ _), exec_bind, exec_record]
  simp only [Session.settled, List.append_assoc, List.singleton_append]
  rw [Ruling.record]
  rcases (s.audit.append files _).2.2 with fault | ⟨⟩
  · rw [AuditTrail.goOn, AuditTrail.goOn]
    cases fault.text <;> rfl
  · rfl

/-- From a contained trail nothing escapes. -/
lemma goOn_append {trail : AuditTrail} {α : Type} (hcontained : trail.IsContained) (a : α)
    (files : Tree) (r : AuditRecord) : AuditTrail.goOn a (trail.append files r).2.2 = .ok a := by
  rcases houtcome : (trail.append files r).2.2 with fault | ⟨⟩
  · obtain ⟨message, htext⟩ := hcontained.exists_text houtcome
    rw [AuditTrail.goOn, htext]
  · rfl

/-- Whether something escapes does not depend on the files. -/
lemma goOn_append_files (trail : AuditTrail) {α : Type} (a : α) (files files' : Tree)
    (r : AuditRecord) :
    AuditTrail.goOn a (trail.append files' r).2.2
      = AuditTrail.goOn a (trail.append files r).2.2 := by
  cases trail with
  | off => rw [AuditTrail.append_off, AuditTrail.append_off]
  | file p =>
    rw [goOn_append (AuditTrail.isContained_file p), goOn_append (AuditTrail.isContained_file p)]
  | recorder failure calls records =>
    rw [AuditTrail.append, AuditTrail.append]
    split
    · rfl
    · rw [AuditTrail.appendRecord, AuditTrail.appendRecord]
      cases failure calls <;> rfl

/-- Work that breaks off does so with what escapes from the trail. -/
lemma escapes_of_goOn {trail : AuditTrail} {α : Type} {a : α} {files : Tree} {r : AuditRecord}
    {fault : Fault} (h : AuditTrail.goOn a (trail.append files r).2.2 = .error fault) :
    ∃ raised, fault = .recorder raised ∧ trail.Escapes raised := by
  obtain ⟨why, raised, houtcome, htext, rfl⟩ := AuditTrail.exists_of_goOn_eq_error h
  exact ⟨raised, rfl, AuditTrail.escapes_of_text houtcome htext⟩

/-- With a contained trail every ruling that the store takes comes back. -/
lemma exec_settle_of_contained (hcontained : s.audit.IsContained) (ruling : Ruling)
    {applications : Collection Application} {files : Tree}
    (h : s.store.applications.insert s.files ruling.application = .ok (applications, files)) :
    exec (settle ruling) s = (.ok ruling.application, s.settled ruling applications files) := by
  rw [exec_settle_eq ruling h, goOn_append hcontained]

/-- A ruling that has been settled and recorded is reported, and nothing else is. -/
lemma events_settled {ruling : Ruling} {applications : Collection Application}
    {files : Tree} (h : (s.audit.append files ruling.record).2.2 = .ok ()) :
    (s.settled ruling applications files).events = s.events ++ [ruling.record.decided] := by
  rw [Session.settled, h]
  rfl

/-- With a contained trail a ruling is settled if the store takes it. -/
lemma exec_settle_fst (hcontained : s.audit.IsContained) (ruling : Ruling) :
    (exec (settle ruling) s).1 = ((s.store.applications.insert s.files ruling.application).map
      fun _ => ruling.application).mapError .store := by
  cases hinsert : s.store.applications.insert s.files ruling.application with
  | error fault => rw [exec_settle_of_error hinsert]; rfl
  | ok inserted => rw [exec_settle_of_contained hcontained ruling hinsert]; rfl

/-- An application that is settled is the one that was ruled on, and has been added. -/
lemma exec_settle_ok {a : Application} (h : exec (settle ruling) s = (.ok a, s')) :
    a = ruling.application ∧ ∃ applications files,
      s.store.applications.insert s.files ruling.application = .ok (applications, files)
        ∧ s' = s.settled ruling applications files := by
  cases hinsert : s.store.applications.insert s.files ruling.application with
  | error fault =>
    rw [exec_settle_of_error hinsert] at h
    cases h
  | ok inserted =>
    rw [exec_settle_eq ruling hinsert, Prod.mk.injEq] at h
    obtain ⟨houtcome, rfl⟩ := h
    exact ⟨AuditTrail.eq_of_goOn_eq_ok houtcome, _, _, rfl, rfl⟩

/-- An application that is not settled was refused by the store, and nothing has changed.  Or it has
been added, and something has escaped from the trail. -/
lemma exec_settle_error {fault : Fault} (h : exec (settle ruling) s = (.error fault, s')) :
    (s' = s ∧ ∃ refusal, fault = .store refusal
      ∧ s.store.applications.insert s.files ruling.application = .error refusal)
    ∨ ∃ applications files,
      s.store.applications.insert s.files ruling.application = .ok (applications, files)
        ∧ s' = s.settled ruling applications files
        ∧ AuditTrail.goOn ruling.application (s.audit.append files ruling.record).2.2
          = .error fault := by
  cases hinsert : s.store.applications.insert s.files ruling.application with
  | error refusal =>
    cases (exec_settle_of_error hinsert).symm.trans h
    exact .inl ⟨rfl, refusal, rfl, rfl⟩
  | ok inserted =>
    rw [exec_settle_eq ruling hinsert, Prod.mk.injEq] at h
    exact .inr ⟨_, _, rfl, h.2.symm, h.1⟩

/-! ## Both parts -/

/-- What it comes to when a ruling on a submission is made and settled: the application has been
added, and after that nothing but the audit trail has touched the files. -/
structure IsSettled (setup : Setup) (now : Instant) (s : Session) (vacancyId : Text)
    (applicantId : Option Text) (documents : Documents) (v : Vacancy) (ruling : Ruling)
    (applications : Collection Application) (added : Tree) (s' : Session) : Prop where
  ruled : IsRuling setup now s vacancyId applicantId documents v ruling
  inserted : s.store.applications.insert s.files ruling.application = .ok (applications, added)
  store : s'.store = { s.store with applications }
  files : s'.files = (s.audit.append added ruling.record).2.1
  audit : s'.audit = (s.audit.append added ruling.record).1

/-- A submission either ends with a fault before anything is stored, or a ruling on it is made and
settled.  The application then comes back, unless something escapes from the trail. -/
theorem exec_createApplication_cases (setup : Setup) (now : Instant) (vacancyId : Text)
    (applicantId : Option Text) (documents : Documents) (s : Session) :
    (∃ fault s', exec (createApplication setup now vacancyId applicantId documents) s
        = (.error fault, s') ∧ Untouched s s')
    ∨ ∃ v ruling applications files s',
      IsSettled setup now s vacancyId applicantId documents v ruling applications files s'
        ∧ exec (createApplication setup now vacancyId applicantId documents) s
          = (AuditTrail.goOn ruling.application (s.audit.append files ruling.record).2.2, s') := by
  rw [createApplication_eq, exec_bind]
  have hquiet := isQuiet_rule setup now vacancyId applicantId documents s
  generalize hrule : exec (rule setup now vacancyId applicantId documents) s = outcome at hquiet ⊢
  obtain ⟨fault | ruling, s₁⟩ := outcome
  · exact .inl ⟨fault, s₁, rfl, hquiet⟩
  · obtain ⟨v, hruling⟩ := isRuling_of_rule hrule
    dsimp only
    cases hinsert : s₁.store.applications.insert s₁.files ruling.application with
    | error refusal =>
      exact .inl ⟨_, s₁, exec_settle_of_error hinsert, hquiet⟩
    | ok inserted =>
      rw [exec_settle_eq ruling hinsert, hquiet.audit]
      rw [hquiet.store, hquiet.files] at hinsert
      refine .inr ⟨v, ruling, inserted.1, inserted.2, _, ⟨hruling, hinsert, ?_, ?_, ?_⟩, rfl⟩
      · rw [Session.settled, hquiet.store]
      · rw [Session.settled, hquiet.audit]
      · rw [Session.settled, hquiet.audit]

/-- An application that comes back was ruled on and has been added.  After that nothing but the
audit trail has touched the files. -/
lemma exec_createApplication_ok {a : Application}
    (h : exec (createApplication setup now vacancyId applicantId documents) s = (.ok a, s')) :
    ∃ v ruling applications files, ruling.application = a
      ∧ IsSettled setup now s vacancyId applicantId documents v ruling applications files s' := by
  rcases exec_createApplication_cases setup now vacancyId applicantId documents s with
    ⟨fault, s₁, hfault, -⟩ | ⟨v, ruling, applications, files, s₁, hsettled, hcreate⟩
  · cases hfault.symm.trans h
  · obtain ⟨houtcome, rfl⟩ := Prod.mk.inj (hcreate.symm.trans h)
    exact ⟨v, ruling, applications, files, (AuditTrail.eq_of_goOn_eq_ok houtcome).symm, hsettled⟩

/-- When no application comes back, the store, the files and the trail are as before.  Or the
application has been added, and something has escaped from the trail. -/
lemma exec_createApplication_error {fault : Fault}
    (h : exec (createApplication setup now vacancyId applicantId documents) s
      = (.error fault, s')) :
    Untouched s s' ∨ ∃ v ruling applications files,
      IsSettled setup now s vacancyId applicantId documents v ruling applications files s'
        ∧ AuditTrail.goOn ruling.application (s.audit.append files ruling.record).2.2
          = .error fault := by
  rcases exec_createApplication_cases setup now vacancyId applicantId documents s with
    ⟨fault', s₁, hfault, huntouched⟩ | ⟨v, ruling, applications, files, s₁, hsettled, hcreate⟩
  · cases hfault.symm.trans h
    exact .inl huntouched
  · obtain ⟨houtcome, rfl⟩ := Prod.mk.inj (hcreate.symm.trans h)
    exact .inr ⟨v, ruling, applications, files, hsettled, houtcome⟩

/-! ## Submissions that go through -/

lemma exec_applicationId (applicationIds : ApplicationIds) (s : Session) :
    exec (applicationId applicationIds) s
      = (.ok (applicationIds.next s.ids).1, { s with ids := (applicationIds.next s.ids).2 }) := by
  cases applicationIds <;> rfl

lemma exec_openSubmission_of_get? {v : Vacancy}
    (hget : s.store.vacancies.get? s.files vacancyId = .ok (some v)) :
    exec (openSubmission vacancyId applicantId documents) s
      = (.ok ⟨v, applicantId, documents⟩, s) := by
  rw [openSubmission, exec_bind_ok (Action.exec_get _), hget]
  rfl

/-- A ruling is made if there are facts, the requirements can be judged by them and the reasons can
be joined.  It takes one id. -/
lemma exec_judge_of_decision (submission : OpenSubmission)
    {extracted : List Event × Except ExtractionFault Facts} {facts : Facts} {decision : Decision}
    {feedback : Option Text} (s : Session) (hfacts : extracted.2 = .ok facts)
    (hdecision : Decision.ofFacts setup now submission.vacancy.requirements facts = .ok decision)
    (hfeedback : decision.feedback = .ok feedback) :
    exec (judge setup now submission extracted) s
      = (.ok ⟨submission.decided now (setup.applicationIds.next s.ids).1 facts decision feedback,
            decision.evaluation, facts⟩,
          { s with
            ids := (setup.applicationIds.next s.ids).2, events := s.events ++ extracted.1 }) := by
  rw [judge, exec_bind_ok (exec_report _ _), hfacts]
  dsimp only
  rw [hdecision]
  dsimp only
  rw [draw, exec_bind_ok (exec_applicationId _ _), hfeedback,
    exec_bind_ok (Action.exec_lift _ _)]
  rfl

/-- If there is a vacancy, a ruling is made on a submission, and the store takes the application,
the ruling is settled.  The application comes back unless something escapes from the trail. -/
lemma exec_createApplication_settled (setup : Setup)
    (applicantId : Option Text) (documents : Documents) {v : Vacancy} {facts : Facts}
    {decision : Decision} {feedback : Option Text} {applications : Collection Application}
    {files : Tree}
    (hget : s.store.vacancies.get? s.files vacancyId = .ok (some v))
    (hfacts : (setup.extractor.run s.asked documents).2 = .ok facts)
    (hdecision : Decision.ofFacts setup now v.requirements facts = .ok decision)
    (hfeedback : decision.feedback = .ok feedback)
    (hinsert : s.store.applications.insert s.files
      (OpenSubmission.decided ⟨v, applicantId, documents⟩ now (setup.applicationIds.next s.ids).1
        facts decision feedback) = .ok (applications, files)) :
    let ruling : Ruling := ⟨OpenSubmission.decided ⟨v, applicantId, documents⟩ now
      (setup.applicationIds.next s.ids).1 facts decision feedback, decision.evaluation, facts⟩
    exec (createApplication setup now vacancyId applicantId documents) s
      = (AuditTrail.goOn ruling.application (s.audit.append files ruling.record).2.2,
          { s with
              ids := (setup.applicationIds.next s.ids).2
              asked := s.asked + 1
              events := s.events ++ (setup.extractor.run s.asked documents).1 : Session }.settled
            ruling applications files) := by
  intro ruling
  rw [createApplication_eq, rule, bind_assoc, exec_bind_ok (exec_openSubmission_of_get? hget),
    bind_assoc, exec_bind_ok (exec_askExtractor _ _ _),
    exec_bind_ok (exec_judge_of_decision ⟨v, applicantId, documents⟩
      { s with asked := s.asked + 1 } hfacts hdecision hfeedback)]
  exact exec_settle_eq
    (s := { s with
      asked := s.asked + 1, ids := (setup.applicationIds.next s.ids).2,
      events := s.events ++ (setup.extractor.run s.asked documents).1 })
    ruling hinsert

/-- A submission that goes through takes one id and asks the extractor once; the audit trail touches
the files. -/
lemma exec_createApplication_of_decision (hcontained : s.audit.IsContained) (setup : Setup)
    (applicantId : Option Text) (documents : Documents) {v : Vacancy} {facts : Facts}
    {decision : Decision} {feedback : Option Text} {applications : Collection Application}
    {files : Tree}
    (hget : s.store.vacancies.get? s.files vacancyId = .ok (some v))
    (hfacts : (setup.extractor.run s.asked documents).2 = .ok facts)
    (hdecision : Decision.ofFacts setup now v.requirements facts = .ok decision)
    (hfeedback : decision.feedback = .ok feedback)
    (hinsert : s.store.applications.insert s.files
      (OpenSubmission.decided ⟨v, applicantId, documents⟩ now (setup.applicationIds.next s.ids).1
        facts decision feedback) = .ok (applications, files)) :
    ∃ record events, exec (createApplication setup now vacancyId applicantId documents) s
      = (.ok (OpenSubmission.decided ⟨v, applicantId, documents⟩ now
            (setup.applicationIds.next s.ids).1 facts decision feedback),
          { files := (s.audit.append files record).2.1
            store := { s.store with applications }
            ids := (setup.applicationIds.next s.ids).2
            asked := s.asked + 1
            audit := (s.audit.append files record).1
            events }) := by
  have hcreate := exec_createApplication_settled setup applicantId documents hget hfacts hdecision
    hfeedback hinsert
  dsimp only at hcreate
  rw [goOn_append hcontained] at hcreate
  exact ⟨_, _, hcreate⟩

/-- The application of a candidate who is accepted. -/
def acceptance (now : Instant) (id : Text) (applicantId : Option Text) (v : Vacancy)
    (documents : Documents) (facts : Facts) : Application :=
  { id, applicantId, vacancyId := v.id, documents := { documents with facts := some facts },
    status := .accepted, feedback := none, createdAt := timeText now }

/-- A candidate who meets the requirements is accepted, if the store takes the application. -/
lemma exec_createApplication_of_met {v : Vacancy} {facts : Facts} {decision : Decision}
    {applications : Collection Application} {files : Tree} (hcontained : s.audit.IsContained)
    (hids : setup.applicationIds = .drawn)
    (hget : s.store.vacancies.get? s.files vacancyId = .ok (some v))
    (hfacts : (setup.extractor.run s.asked documents).2 = .ok facts)
    (hdecision : Decision.ofFacts setup now v.requirements facts = .ok decision)
    (hmet : decision.evaluation.satisfied = true)
    (hinsert : s.store.applications.insert s.files
      (acceptance now (s.ids.fresh "app").1 applicantId v documents facts)
        = .ok (applications, files)) :
    ∃ s', exec (createApplication setup now vacancyId applicantId documents) s
      = (.ok (acceptance now (s.ids.fresh "app").1 applicantId v documents facts), s') := by
  have hfeedback : decision.feedback = .ok none := if_pos hmet
  have haccepted : OpenSubmission.decided ⟨v, applicantId, documents⟩ now
      (setup.applicationIds.next s.ids).1 facts decision none
        = acceptance now (s.ids.fresh "app").1 applicantId v documents facts := by
    rw [OpenSubmission.decided, Decision.status, if_pos hmet, hids]
    rfl
  rw [← haccepted] at hinsert ⊢
  obtain ⟨record, events, hcreate⟩ :=
    exec_createApplication_of_decision hcontained setup applicantId documents hget hfacts hdecision
      hfeedback hinsert
  exact ⟨_, hcreate⟩

end

end Pipeline

end Shortlist
