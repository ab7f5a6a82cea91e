import Shortlist.Proofs.Batch.Run
import Shortlist.Proofs.Pipeline.Consistency

/-!
# Submissions that wait

A submission may wait for the extractor after it has looked up its vacancy.  While it waits, other
submissions go on and vacancies are registered.  A `World` is a session that any number of
submissions work on, with how far each of them has come; a `Turn` is what happens without a break: a
vacancy is registered, a submission goes as far as its wait, or the wait of a submission ends, with
whatever the extractor came back with.  A submission that does not wait is two such turns in a row
(`Payload.exec_submit_eq`).

A turn for a submission that is not where the turn would find it does nothing, so every list of
turns is a schedule, and nothing has to be said about which schedules there are.  What a turn can do
to one of the submissions is one of three things (`World.Moves`).

What a submission has looked up stays true while it waits, because the ledger only grows
(`Payload.Opens.of_grows`).  So in the end it is decided on as if it had not waited, in the session
in which its wait ends (`World.Answers`).
-/

namespace Shortlist

open Shortlist.Action (exec exec_bind exec_bind_ok exec_bind_error exec_bind_eq_ok
  exec_bind_eq_error)

/-! ## The two parts of a submission -/

namespace Pipeline

variable {setup : Setup} {now : Instant} {s s' : Session} {fault : Fault}

/-- Nothing escapes from the audit trail when a vacancy is looked up. -/
lemma not_isEscape_of_openSubmission {vacancyId : Text} {applicantId : Option Text}
    {documents : Documents}
    (h : exec (openSubmission vacancyId applicantId documents) s = (.error fault, s')) :
    ¬fault.IsEscape := by
  rintro ⟨raised, rfl⟩
  rw [openSubmission, exec_bind_ok (Action.exec_get s)] at h
  rcases exec_bind_eq_error.1 h with h | ⟨found, s₁, -, h⟩
  · rw [Session.exec_ofStore] at h
    cases hfound : s.store.vacancies.get? s.files vacancyId <;> rw [hfound] at h <;> cases h
  · cases found <;> cases h

/-- Nothing escapes from the audit trail when a ruling is made. -/
lemma not_isEscape_of_judge {submission : OpenSubmission}
    {extracted : List Event × Except ExtractionFault Facts}
    (h : exec (judge setup now submission extracted) s = (.error fault, s')) : ¬fault.IsEscape := by
  rintro ⟨raised, rfl⟩
  rw [judge, exec_bind_ok (Session.exec_report _ _)] at h
  -- the trail is asked after the ruling, so every fault here is one of the pipeline
  cases hfacts : extracted.2 with
  | error refusal =>
    rw [hfacts] at h
    cases h
  | ok facts =>
    rw [hfacts] at h
    dsimp only at h
    cases hdecision : Decision.ofFacts setup now submission.vacancy.requirements facts with
    | error unjudgeable =>
      rw [hdecision] at h
      cases h
    | ok decision =>
      rw [hdecision] at h
      dsimp only at h
      rw [draw, exec_bind_ok (exec_applicationId _ _)] at h
      rcases exec_bind_eq_error.1 h with h | ⟨_, _, -, h⟩
      · cases Decision.feedback_eq_error (congrArg Prod.fst h)
      · cases h

end Pipeline

namespace Payload

variable {setup : Setup} {now : Instant} {payload : Payload} {opened : OpenSubmission}
  {s s' : Session} {l l' : Ledger}

/-- The part of a submission before the wait: what is handed in is read, the vacancy is looked up,
and the extractor is asked. -/
def start (setup : Setup) (payload : Payload) : Action OpenSubmission := do
  let submission ← Pipeline.ofCheck .application (Submission.read payload.value)
  let opened ← Pipeline.openSubmission submission.vacancyId.text submission.applicantId
    submission.documents
  let _ ← Session.askExtractor setup.extractor opened.documents
  return opened

/-- What is handed in can be read, and this is what it comes to with the vacancy that it names. -/
def Opens (payload : Payload) (s : Session) (opened : OpenSubmission) : Prop :=
  ∃ submission, Submission.read payload.value = .accepted submission
    ∧ s.store.vacancies.get? s.files submission.vacancyId.text = .ok (some opened.vacancy)
    ∧ opened = ⟨opened.vacancy, submission.applicantId, submission.documents⟩

lemma exec_start_ok (h : exec (payload.start setup) s = (.ok opened, s')) :
    payload.Opens s opened ∧ s' = { s with asked := s.asked + 1 } := by
  rw [start, exec_bind_eq_ok] at h
  obtain ⟨submission, s₁, hcheck, h⟩ := h
  obtain ⟨hread, rfl⟩ := Pipeline.exec_ofCheck_ok hcheck
  rw [exec_bind_eq_ok] at h
  obtain ⟨opened', s₂, hopen, h⟩ := h
  obtain ⟨v, hget, rfl, rfl⟩ := Pipeline.exec_openSubmission_ok hopen
  cases h
  exact ⟨⟨submission, hread, hget, rfl⟩, rfl⟩

/-- A submission that does not wait is its two parts, with what the extractor comes back with at
once. -/
theorem exec_submit_eq (setup : Setup) (now : Instant) (payload : Payload) (s : Session) :
    exec (payload.submit setup now) s = match exec (payload.start setup) s with
      | (.ok opened, s') =>
        exec (Pipeline.decide setup now opened (setup.extractor.run s.asked opened.documents)) s'
      | (.error fault, s') => (.error fault, s') := by
  rw [payload.submit_eq, Pipeline.submitDocument, start]
  cases hread : Submission.read payload.value with
  | refused issues => rfl
  | broken fault => rfl
  | accepted submission =>
    have hstay (s : Session) :
        exec (Pipeline.ofCheck .application (.accepted submission)) s = (.ok submission, s) := rfl
    rw [exec_bind_ok (hstay s), exec_bind_ok (hstay s), Pipeline.submit,
      Pipeline.createApplication, exec_bind, exec_bind]
    generalize hopen : exec (Pipeline.openSubmission submission.vacancyId.text
      submission.applicantId submission.documents) s = outcome
    obtain ⟨_ | opened, s₁⟩ := outcome
    · rfl
    · obtain ⟨v, -, rfl, rfl⟩ := Pipeline.exec_openSubmission_ok hopen
      rfl

/-- Nothing escapes from the audit trail before the wait. -/
lemma not_isEscape_of_start {fault : Fault}
    (h : exec (payload.start setup) s = (.error fault, s')) : ¬fault.IsEscape := by
  rintro ⟨raised, rfl⟩
  rw [start] at h
  rcases exec_bind_eq_error.1 h with h | ⟨submission, s₁, -, h⟩
  · cases hread : Submission.read payload.value <;> rw [hread] at h <;> cases h
  rcases exec_bind_eq_error.1 h with h | ⟨opened, s₂, -, h⟩
  · exact Pipeline.not_isEscape_of_openSubmission h ⟨raised, rfl⟩
  · cases h

/-- A submission that stops before its wait leaves the store and the trail as they are. -/
lemma isQuiet_start (setup : Setup) (payload : Payload) :
    Pipeline.IsQuiet (payload.start setup) := by
  apply Pipeline.IsQuiet.bind
  · intro s
    cases Submission.read payload.value <;> exact .refl s
  · intro submission
    apply (Pipeline.isQuiet_openSubmission _ _ _).bind
    intro opened s
    exact ⟨rfl, rfl, rfl⟩

/-- What has been looked up stays true while the ledger grows. -/
theorem Opens.of_grows (h : payload.Opens s opened) (hs : s.Holds l) (hs' : s'.Holds l')
    (hgrows : l.Grows l') : payload.Opens s' opened := by
  obtain ⟨submission, hread, hget, hopened⟩ := h
  refine ⟨submission, hread, ?_, hopened⟩
  rw [hs.get?_eq, Except.ok.injEq] at hget
  rw [hs'.get?_eq, hgrows.vacancies.find?_eq_some hget]

/-- The vacancy that has been looked up is in the ledger, under the id that was handed in. -/
lemma Opens.mem (h : payload.Opens s opened) (hs : s.Holds l) : opened.vacancy ∈ l.vacancies := by
  obtain ⟨submission, -, hget, -⟩ := h
  rw [hs.get?_eq, Except.ok.injEq] at hget
  exact List.mem_of_find?_eq_some hget

end Payload

namespace Pipeline

variable {setup : Setup} {now : Instant} {opened : OpenSubmission}
  {extracted : List Event × Except ExtractionFault Facts} {s s' : Session}

/-- The second part of a submission has come to a decision on facts and added its application.  It
comes back with it, unless something escapes from the audit trail. -/
structure Adds (setup : Setup) (now : Instant) (opened : OpenSubmission)
    (extracted : List Event × Except ExtractionFault Facts) (s : Session) (a : Application)
    (outcome : Except Fault Application) (s' : Session) : Prop where
  decided : ∃ facts decision feedback, extracted.2 = .ok facts
    ∧ Decision.ofFacts setup now opened.vacancy.requirements facts = .ok decision
    ∧ decision.feedback = .ok feedback
    ∧ a = opened.decided now a.id facts decision feedback
  inserted : ∃ applications files, s.store.applications.insert s.files a = .ok (applications, files)
    ∧ s'.store = { s.store with applications }
  comesBack : outcome = .ok a
    ∨ ¬s.audit.IsContained ∧ ∃ fault, outcome = .error fault ∧ fault.IsEscape

/-- The second part of a submission adds its application, or fails and leaves the store as it is. -/
lemma exec_decide_cases (setup : Setup) (now : Instant) (opened : OpenSubmission)
    (extracted : List Event × Except ExtractionFault Facts) (s : Session) :
    (∃ fault s', exec (decide setup now opened extracted) s = (.error fault, s')
        ∧ ¬fault.IsEscape ∧ s'.store = s.store)
      ∨ ∃ a outcome s', exec (decide setup now opened extracted) s = (outcome, s')
        ∧ Adds setup now opened extracted s a outcome s' := by
  rw [decide_eq]
  have hquiet := isQuiet_judge setup now opened extracted s
  rcases hjudge : exec (judge setup now opened extracted) s with ⟨fault | ruling, s₁⟩
  · rw [hjudge] at hquiet
    exact .inl ⟨fault, s₁, exec_bind_error hjudge _, not_isEscape_of_judge hjudge, hquiet.store⟩
  · rw [hjudge] at hquiet
    rw [exec_bind_ok hjudge]
    obtain ⟨facts, decision, s₂, hfacts, hdecision, hdraw⟩ := exec_judge_ok hjudge
    obtain ⟨id, feedback, hfeedback, hruling⟩ := exec_draw_ok hdraw
    have ha : ruling.application
        = opened.decided now ruling.application.id facts decision feedback := by
      rw [hruling]
      rfl
    -- nothing has been stored so far: the insertion decides which case it is
    rcases hinsert : s₁.store.applications.insert s₁.files ruling.application with
      refusal | ⟨applications, files⟩
    · refine .inl ⟨_, _, exec_settle_of_error hinsert, ?_, hquiet.store⟩
      rintro ⟨raised, ⟨⟩⟩
    · refine .inr ⟨ruling.application, _, _, exec_settle_eq ruling hinsert,
        ⟨facts, decision, feedback, hfacts, hdecision, hfeedback, ha⟩,
          ⟨applications, files, ?_, ?_⟩,
        ?_⟩
      · rwa [hquiet.store, hquiet.files] at hinsert
      · rw [Session.settled, hquiet.store]
      · rw [← hquiet.audit]
        rcases houtcome : AuditTrail.goOn ruling.application
          (s₁.audit.append files ruling.record).2.2 with fault | a
        · obtain ⟨raised, rfl, -⟩ := escapes_of_goOn houtcome
          refine .inr ⟨fun hcontained => ?_, _, rfl, raised, rfl⟩
          rw [goOn_append hcontained] at houtcome
          cases houtcome
        · exact .inl (congrArg _ (AuditTrail.eq_of_goOn_eq_ok houtcome))

/-- Registering a vacancy leaves the applications and the trail as they are. -/
lemma kept_registerVacancy (now : Instant) (draft : VacancyDraft) (s : Session) :
    (exec (registerVacancy now draft) s).2.store.applications = s.store.applications
      ∧ (exec (registerVacancy now draft) s).2.audit = s.audit := by
  rw [registerVacancy, exec_bind_ok (Session.exec_freshId _ _), exec_bind,
    Session.exec_insertVacancy]
  dsimp only
  cases s.store.vacancies.insert s.files
    (draft.register (s.ids.fresh "vac").1 (timeText now)) <;> exact ⟨rfl, rfl⟩

lemma kept_createVacancy (now : Instant) (document : Value) (s : Session) :
    (exec (createVacancy now document) s).2.store.applications = s.store.applications
      ∧ (exec (createVacancy now document) s).2.audit = s.audit := by
  rw [createVacancy]
  cases VacancyDraft.read document with
  | accepted draft => exact kept_registerVacancy now draft s
  | refused issues => exact ⟨rfl, rfl⟩
  | broken fault => exact ⟨rfl, rfl⟩

/-- The second part of a submission leaves a contained trail behind. -/
lemma isContained_decide (hcontained : s.audit.IsContained) (setup : Setup) (now : Instant)
    (opened : OpenSubmission) (extracted : List Event × Except ExtractionFault Facts) :
    (exec (decide setup now opened extracted) s).2.audit.IsContained := by
  rw [decide_eq, exec_bind]
  have hquiet := isQuiet_judge setup now opened extracted s
  generalize exec (judge setup now opened extracted) s = outcome at hquiet ⊢
  obtain ⟨fault | ruling, s₁⟩ := outcome
  · rwa [hquiet.audit]
  · have hcontained' : s₁.audit.IsContained := by rwa [hquiet.audit]
    dsimp only
    cases hinsert : s₁.store.applications.insert s₁.files ruling.application with
    | error refusal => rwa [exec_settle_of_error hinsert]
    | ok inserted =>
      rw [exec_settle_of_contained hcontained' ruling hinsert]
      exact hcontained'.append _ _

end Pipeline

/-! ## Worlds and turns -/

/-- How far a submission has come. -/
inductive Progress where
  | ready (payload : Payload)
  | waiting (opened : OpenSubmission)
  | returned (application : Application)
  | raised (fault : Fault)

namespace Progress

/-- What a submission has added to the store: the application that it has come back with, or the one
after which something has escaped from the audit trail, and nothing otherwise. -/
def HasAdded : Progress → Option Application → Prop
  | .returned a, added => added = some a
  | .raised fault, added => added.isSome ↔ fault.IsEscape
  | _, added => added = none

/-- Where a submission is after a part of it. -/
def ofOutcome {α : Type} (next : α → Progress) : Except Fault α → Progress
  | .ok a => next a
  | .error fault => .raised fault

lemma hasAdded_of_not_isEscape {fault : Fault} (h : ¬fault.IsEscape) :
    HasAdded (.raised fault) none := by
  rw [HasAdded]
  simpa using h

/-- A submission that has added its application has. -/
lemma hasAdded_of_adds {setup : Setup} {now : Instant} {opened : OpenSubmission}
    {extracted : List Event × Except ExtractionFault Facts} {s s' : Session} {a : Application}
    {outcome : Except Fault Application}
    (h : Pipeline.Adds setup now opened extracted s a outcome s') :
    (ofOutcome .returned outcome).HasAdded (some a) := by
  rcases h.comesBack with rfl | ⟨-, fault, rfl, hescape⟩
  · exact rfl
  · exact iff_of_true rfl hescape

/-- Progress that is about what was handed in: it holds it, or what it comes to with the vacancy
that it names. -/
def Follows (s : Session) (payload : Payload) : Progress → Prop
  | .ready payload' => payload' = payload
  | .waiting opened => payload.Opens s opened
  | .returned _ | .raised _ => True

lemma Follows.of_grows {s s' : Session} {l l' : Ledger} {payload : Payload} {progress : Progress}
    (h : progress.Follows s payload) (hs : s.Holds l) (hs' : s'.Holds l') (hgrows : l.Grows l') :
    progress.Follows s' payload := by
  cases progress with
  | waiting opened => exact Payload.Opens.of_grows h hs hs' hgrows
  | _ => exact h

end Progress

/-- A session that submissions work on, and how far each of them has come. -/
structure World where
  session : Session
  submissions : List Progress

/-- What happens without a break: a vacancy is registered, a submission goes as far as its wait, or
its wait ends. -/
inductive Turn where
  | createVacancy (now : Instant) (document : Value)
  | registerVacancy (now : Instant) (draft : VacancyDraft)
  | start (i : Nat)
  | finish (now : Instant) (i : Nat) (extracted : List Event × Except ExtractionFault Facts)

namespace World

/-- One part of a submission is done. -/
def advance {α : Type} (w : World) (i : Nat) (action : Action α) (next : α → Progress) : World :=
  ⟨(exec action w.session).2, w.submissions.set i (.ofOutcome next (exec action w.session).1)⟩

/-- A turn. -/
def next (setup : Setup) (w : World) : Turn → World
  | .createVacancy now document =>
    { w with session := (exec (Pipeline.createVacancy now document) w.session).2 }
  | .registerVacancy now draft =>
    { w with session := (exec (Pipeline.registerVacancy now draft) w.session).2 }
  | .start i =>
    match w.submissions[i]? with
    | some (.ready payload) => w.advance i (payload.start setup) .waiting
    | _ => w
  | .finish now i extracted =>
    match w.submissions[i]? with
    | some (.waiting opened) => w.advance i (Pipeline.decide setup now opened extracted) .returned
    | _ => w

/-- The turns of a schedule, one after another. -/
def run (setup : Setup) (w : World) (turns : List Turn) : World := turns.foldl (next setup) w

lemma run_append (setup : Setup) (w : World) (turns turns' : List Turn) :
    run setup w (turns ++ turns') = run setup (run setup w turns) turns' := List.foldl_append

lemma run_concat (setup : Setup) (w : World) (turns : List Turn) (turn : Turn) :
    run setup w (turns ++ [turn]) = (run setup w turns).next setup turn := run_append ..

variable {setup : Setup} {now : Instant} {w : World} {turn : Turn} {i : Nat}
  {opened : OpenSubmission}

lemma next_start {payload : Payload} (h : w.submissions[i]? = some (.ready payload)) :
    w.next setup (.start i) = w.advance i (payload.start setup) .waiting := by
  rw [next, h]

lemma next_finish {extracted : List Event × Except ExtractionFault Facts}
    (h : w.submissions[i]? = some (.waiting opened)) :
    w.next setup (.finish now i extracted)
      = w.advance i (Pipeline.decide setup now opened extracted) .returned := by
  rw [next, h]

lemma getElem?_advance {α : Type} {action : Action α} {next : α → Progress} {progress : Progress}
    (h : w.submissions[i]? = some progress) :
    (w.advance i action next).submissions[i]?
      = some (.ofOutcome next (exec action w.session).1) := by
  rw [advance, List.getElem?_set_self (List.getElem?_eq_some_iff.1 h).1]

lemma getElem?_advance_ne {α : Type} {action : Action α} {next : α → Progress} {j : Nat}
    (hne : j ≠ i) :
    (w.advance i action next).submissions[j]? = w.submissions[j]? := by
  rw [advance, List.getElem?_set_ne hne.symm]

/-- How a turn moves a submission: not at all, or as far as its wait if it is ready, or to the end
of its wait. -/
inductive Moves (setup : Setup) (w : World) (i : Nat) : Turn → Prop where
  | stays {turn : Turn} (hkept : (w.next setup turn).submissions[i]? = w.submissions[i]?) :
    Moves setup w i turn
  | starts {payload : Payload} (hready : w.submissions[i]? = some (.ready payload)) :
    Moves setup w i (.start i)
  | finishes {now : Instant} {opened : OpenSubmission}
    {extracted : List Event × Except ExtractionFault Facts}
    (hwaiting : w.submissions[i]? = some (.waiting opened)) :
    Moves setup w i (.finish now i extracted)

lemma moves (setup : Setup) (w : World) (i : Nat) (turn : Turn) : Moves setup w i turn := by
  cases turn with
  | createVacancy now document => exact .stays rfl
  | registerVacancy now draft => exact .stays rfl
  | start j =>
    -- a turn moves one submission, and only if it is where the turn would find it
    by_cases hready : ∃ payload, w.submissions[j]? = some (.ready payload)
    · obtain ⟨payload, hready⟩ := hready
      by_cases hij : i = j
      · subst hij
        exact .starts hready
      · exact .stays (by rw [next_start hready, getElem?_advance_ne hij])
    · refine .stays ?_
      rw [next]
      split
      · exact absurd ⟨_, ‹_›⟩ hready
      · rfl
  | finish now j extracted =>
    by_cases hwaiting : ∃ opened, w.submissions[j]? = some (.waiting opened)
    · obtain ⟨opened, hwaiting⟩ := hwaiting
      by_cases hij : i = j
      · subst hij
        exact .finishes hwaiting
      · exact .stays (by rw [next_finish hwaiting, getElem?_advance_ne hij])
    · refine .stays ?_
      rw [next]
      split
      · exact absurd ⟨_, ‹_›⟩ hwaiting
      · rfl

end World

/-! ## Answers -/

/-- A submission comes back with the application, but for its id, when it is handed in alone, at the
time `now`, in a session that holds nothing but the vacancy, and the extractor comes back with the
facts. -/
def Payload.IsDecidedAlone (setup : Setup) (now : Instant) (v : Vacancy) (facts : Facts)
    (payload : Payload) (a : Application) : Prop :=
  ∃ id s', exec
    (payload.submit { setup with extractor := .custom fun _ => .awaited (.facts facts) } now)
    (Session.withVacancy v) = (.ok { a with id }, s')

lemma Payload.Opens.isDecidedAlone {setup : Setup} {now : Instant} {payload : Payload}
    {opened : OpenSubmission} {s : Session} {l : Ledger} {facts : Facts} {decision : Decision}
    {feedback : Option Text} (h : payload.Opens s opened) (hs : s.Holds l) (id : Text)
    (hdecision : Decision.ofFacts setup now opened.vacancy.requirements facts = .ok decision)
    (hfeedback : decision.feedback = .ok feedback) :
    payload.IsDecidedAlone setup now opened.vacancy facts
      (opened.decided now id facts decision feedback) := by
  obtain ⟨submission, hread, hget, hopened⟩ := h
  have hid : opened.vacancy.id = submission.vacancyId.text := by
    rw [hs.get?_eq, Except.ok.injEq] at hget
    simpa using List.find?_some hget
  have hget' : (Session.withVacancy opened.vacancy).store.vacancies.get?
      (Session.withVacancy opened.vacancy).files submission.vacancyId.text
        = .ok (some opened.vacancy) := by
    rw [← hid]
    exact Session.get?_withVacancy _
  obtain ⟨record, events, hcreate⟩ := Pipeline.exec_createApplication_of_decision
    (s := Session.withVacancy opened.vacancy) AuditTrail.isContained_off
    { setup with extractor := .custom fun _ => .awaited (.facts facts) } submission.applicantId
    submission.documents hget' rfl hdecision hfeedback (Session.insert_withVacancy _ _)
  rw [← hopened] at hcreate
  unfold IsDecidedAlone
  rw [payload.submit_eq, Pipeline.submitDocument, hread]
  exact ⟨_, _, hcreate⟩

namespace World

variable {setup : Setup} {now : Instant} {w : World} {turn : Turn} {turns : List Turn} {i : Nat}
  {opened : OpenSubmission} {payload : Payload} {a : Application}

/-- A turn answers a submission: its wait ends with facts.  What was handed in and the vacancy that
it names are as they had been looked up; the turn adds the application, and nothing else; and what
it says is what the submission would have come back with alone. -/
def Answers (setup : Setup) (w : World) (turn : Turn) (i : Nat) (payload : Payload)
    (a : Application) : Prop :=
  ∃ now events facts opened vacancies applications, turn = .finish now i (events, .ok facts)
    ∧ w.submissions[i]? = some (.waiting opened)
    ∧ payload.Opens w.session opened
    ∧ a.vacancyId = opened.vacancy.id
    ∧ w.session.Lists vacancies applications
    ∧ (w.next setup turn).session.Lists vacancies (applications ++ [a])
    ∧ payload.IsDecidedAlone setup now opened.vacancy facts a

/-- A submission was answered in a schedule, at one of the turns. -/
def IsAnswered (setup : Setup) (w : World) (turns : List Turn) (i : Nat) (payload : Payload)
    (a : Application) : Prop :=
  ∃ before turn after, turns = before ++ turn :: after
    ∧ (w.run setup before).Answers setup turn i payload a

lemma IsAnswered.append (h : w.IsAnswered setup turns i payload a) (turns' : List Turn) :
    w.IsAnswered setup (turns ++ turns') i payload a := by
  obtain ⟨before, turn, after, rfl, hanswers⟩ := h
  exact ⟨before, turn, after ++ turns', by simp, hanswers⟩

end World

end Shortlist
