import Shortlist.Proofs.Audit.Line
import Shortlist.Proofs.Pipeline.Atomicity
import Shortlist.Proofs.Pipeline.Congruence
import Shortlist.Proofs.Store.Growth

/-!
# What an audit file tells

If no decision fails to be recorded, the audit file of a run tells of all applications that the run
has stored, in the order in which they were stored, and of nothing else (`Errand.run_audited`).
This is so whatever else goes wrong: a submission that fails stores nothing and is not recorded, and
a batch that breaks off has recorded what it has stored.

The run starts without a file at the place of the trail; the trail is not in a file of the store,
and the outputs of the run are written neither over the trail nor over the applications.
-/

namespace Shortlist

open Shortlist.Action (exec)

/-! ## Records of decisions -/

/-- A record that tells of an application: what it is about, the facts that the application holds,
and reasons that are empty if it was accepted and otherwise joined in its feedback. -/
structure AuditRecord.IsAbout (setup : Setup) (a : Application) (r : AuditRecord) : Prop where
  applicationId : r.applicationId = a.id
  vacancyId : r.vacancyId = a.vacancyId
  applicantId : r.applicantId = a.applicantId
  status : r.status = a.status
  createdAt : r.createdAt = a.createdAt
  facts : r.facts = a.facts
  accepted : a.status = .accepted → r.reasons = []
  rejected : a.status = .rejected →
    ∃ separator, setup.separator = some separator ∧ a.feedback = some (separator.join r.reasons)

/-- An evaluation that is satisfied gives no reasons. -/
lemma Evaluation.reasons_of_satisfied {e : Evaluation} (h : e.satisfied = true) :
    e.reasons = [] := by
  rw [satisfied, List.all_eq_true] at h
  rw [reasons, List.filterMap_eq_nil_iff]
  intro o ho
  rw [Outcome.reason?, if_pos (h o ho)]

/-- The record of a ruling tells of the application that was ruled on. -/
lemma Pipeline.IsRuling.isAbout {setup : Setup} {now : Instant} {s : Session} {vacancyId : Text}
    {applicantId : Option Text} {documents : Documents} {v : Vacancy} {ruling : Ruling}
    (h : IsRuling setup now s vacancyId applicantId documents v ruling) :
    ruling.record.IsAbout setup ruling.application := by
  have hfacts : ruling.facts = ruling.application.facts := by
    rw [Application.facts, h.documents]
    rfl
  refine ⟨rfl, rfl, rfl, rfl, rfl, hfacts, fun haccepted => ?_, fun hrejected => ?_⟩
  · exact Evaluation.reasons_of_satisfied
      (Decision.status_eq_accepted.1 (h.status.symm.trans haccepted))
  · exact Decision.feedback_of_rejected h.feedback (h.status.symm.trans hrejected)

/-! ## Sessions with a trail -/

/-- The event says that a decision could not be recorded. -/
def Event.IsFailure : Event → Prop
  | .auditFailed .. => True
  | _ => False

/-- If no failure is reported after an application has been settled with a contained trail, none was
before, and it has been recorded. -/
lemma Session.not_isFailure_settled {s : Session} {ruling : Ruling}
    {applications : Collection Application} {files : Tree} (hcontained : s.audit.IsContained)
    (h : ∀ e ∈ (s.settled ruling applications files).events, ¬e.IsFailure) :
    (∀ e ∈ s.events, ¬e.IsFailure) ∧ (s.audit.append files ruling.record).2.2 = .ok () := by
  refine ⟨fun e he => h e (List.mem_append_left _ he), ?_⟩
  cases houtcome : (s.audit.append files ruling.record).2.2 with
  | ok u => rfl
  | error fault =>
    obtain ⟨message, htext⟩ := hcontained.exists_text houtcome
    refine absurd trivial (h (.auditFailed ruling.record.applicationId message) ?_)
    simp [settled, houtcome, AuditRecord.failures, htext]

/-- The applications have grown since the start by those that the records are about, and if every
decision could be recorded, the audit file holds the lines of the records. -/
structure Tells (setup : Setup) (p : Path) (start s : Session) (applications : List Application)
    (records : List AuditRecord) : Prop where
  grown : Collection.HasGrown applications start.files s.files start.store.applications
    s.store.applications
  about : List.Forall₂ (AuditRecord.IsAbout setup) applications records
  legible : (∀ e ∈ s.events, ¬e.IsFailure) → ∀ r ∈ records, r.IsLegible
  bytes : (∀ e ∈ s.events, ¬e.IsFailure) → s.files.bytesAt (start.files.resolve p)
    = records.flatMap fun r => Text.lineBytes r.lineChars

/-- A session in which the trail has been kept in a file since the start. -/
structure IsAudited (setup : Setup) (p : Path) (start s : Session) : Prop where
  audit : s.audit = .file p
  here : s.files.here = start.files.here
  vacancies : s.store.vacancies.path? = start.store.vacancies.path?
  told : ∃ applications records, Tells setup p start s applications records

/-- The outputs leave the trail and the applications alone. -/
def IsAudited.scope (p : Path) (start : Session) : Scope where
  documents _ := True
  reads _ := True
  writes q := start.files.IsOff q p
    ∧ ∀ a, start.store.applications.path? = some a → start.files.IsOff q a
  documents_of_hasDecodedFacts _ _ := trivial

namespace IsAudited

variable {setup : Setup} {now : Instant} {p q : Path} {start s : Session}

lemma resolve (h : IsAudited setup p start s) (q : Path) :
    s.files.resolve q = start.files.resolve q := Tree.resolve_of_here h.here q

lemma applications_path? (h : IsAudited setup p start s) :
    s.store.applications.path? = start.store.applications.path? := by
  obtain ⟨applications, records, htells⟩ := h.told
  exact htells.grown.path?_eq

/-- Files that agree with those of the session at the place of the trail and at that of the
applications. -/
lemma of_bytesAt (h : IsAudited setup p start s) {files : Tree}
    (hhere : files.here = s.files.here)
    (htrail : files.bytesAt (start.files.resolve p) = s.files.bytesAt (start.files.resolve p))
    (happlications : ∀ a, start.store.applications.path? = some a →
      files.bytesAt (start.files.resolve a) = s.files.bytesAt (start.files.resolve a)) :
    IsAudited setup p start { s with files } where
  audit := h.audit
  here := hhere.trans h.here
  vacancies := h.vacancies
  told := by
    obtain ⟨applications, records, htells⟩ := h.told
    exact ⟨applications, records, htells.grown.of_bytesAt happlications, htells.about,
      htells.legible, fun hfine => htrail.trans (htells.bytes hfine)⟩

lemma quiet {s' : Session} {events : List Event} (h : IsAudited setup p start s)
    (huntouched : Pipeline.Untouched s s') (hevents : s'.events = s.events ++ events) :
    IsAudited setup p start s' where
  audit := huntouched.audit.trans h.audit
  here := by rw [huntouched.files, h.here]
  vacancies := by rw [huntouched.store, h.vacancies]
  told := by
    obtain ⟨applications, records, htells⟩ := h.told
    have hfine (h' : ∀ e ∈ s'.events, ¬e.IsFailure) : ∀ e ∈ s.events, ¬e.IsFailure :=
      fun e he => h' e (by rw [hevents]; exact List.mem_append_left _ he)
    refine ⟨applications, records, ?_, htells.about, fun h' => htells.legible (hfine h'), ?_⟩
    · rw [huntouched.files, huntouched.store]
      exact htells.grown
    · rw [huntouched.files]
      exact fun h' => htells.bytes (hfine h')

/-- Vacancies are kept elsewhere. -/
lemma vacancy (huniform : start.store.IsUniform)
    (htrail : ∀ q, start.store.vacancies.path? = some q →
      start.files.resolve p ≠ start.files.resolve q)
    (h : IsAudited setup p start s) {v : Vacancy} {vacancies : Collection Vacancy} {files : Tree}
    (hinsert : s.store.vacancies.insert s.files v = .ok (vacancies, files)) :
    IsAudited setup p start { s with files, store := { s.store with vacancies } } := by
  have hkept {place : Place} (hne : ∀ q, start.store.vacancies.path? = some q →
      place ≠ start.files.resolve q) :
      files.here = s.files.here ∧ files.bytesAt place = s.files.bytesAt place := by
    refine Collection.bytesAt_insert_ne hinsert fun q hq => ?_
    rw [h.resolve]
    exact hne q (h.vacancies ▸ hq)
  obtain ⟨hhere, hbytes⟩ := hkept htrail
  have happlications (a : Path) (ha : start.store.applications.path? = some a) :=
    (hkept fun q hq => (huniform.resolve_ne hq ha start.files).symm).2
  have hfiles := h.of_bytesAt hhere hbytes happlications
  exact
    { audit := hfiles.audit
      here := hfiles.here
      vacancies := (Collection.path?_of_insert hinsert).trans h.vacancies
      told := by
        obtain ⟨applications, records, htells⟩ := hfiles.told
        exact ⟨applications, records, htells.grown, htells.about, htells.legible, htells.bytes⟩ }

/-- An application that is settled is recorded. -/
lemma application (htrail : ∀ a, start.store.applications.path? = some a →
      start.files.resolve a ≠ start.files.resolve p)
    (h : IsAudited setup p start s) {ruling : Ruling} {applications : Collection Application}
    {files : Tree}
    (hinsert : s.store.applications.insert s.files ruling.application = .ok (applications, files))
    (habout : ruling.record.IsAbout setup ruling.application) :
    IsAudited setup p start (s.settled ruling applications files) := by
  obtain ⟨stored, records, htells⟩ := h.told
  -- the insertion leaves the trail alone, and the trail leaves the applications alone
  obtain ⟨hhere, hbytes⟩ : files.here = s.files.here
      ∧ files.bytesAt (start.files.resolve p) = s.files.bytesAt (start.files.resolve p) := by
    refine Collection.bytesAt_insert_ne hinsert fun a ha => ?_
    rw [h.resolve]
    exact (htrail a (h.applications_path? ▸ ha)).symm
  have hresolve : files.resolve p = start.files.resolve p :=
    Tree.resolve_of_here (hhere.trans h.here) p
  have hne (a : Path) (ha : start.store.applications.path? = some a) :
      start.files.resolve a ≠ files.resolve p :=
    hresolve.symm ▸ htrail a ha
  have hkept (a : Path) (ha : start.store.applications.path? = some a) :=
    AuditTrail.bytesAt_append_ne (hne a ha) ruling.record
  have happend := @AuditTrail.append_file_ok files p ruling.record
  rw [hresolve] at happend
  have hcontained : s.audit.IsContained := h.audit ▸ AuditTrail.isContained_file p
  have hfine := @Session.not_isFailure_settled s ruling applications files hcontained
  rw [Session.settled, h.audit] at hfine ⊢
  refine ⟨AuditTrail.append_file_fst _ _ _,
    (AuditTrail.here_append _ _ _).trans (hhere.trans h.here), h.vacancies,
    stored ++ [ruling.application], records ++ [ruling.record],
    (htells.grown.insert h.here hinsert).of_bytesAt hkept,
    List.rel_append htells.about (.cons habout .nil), fun h' r hr => ?_, fun h' => ?_⟩
  · obtain ⟨hbefore, hok⟩ := hfine h'
    rcases List.mem_append.1 hr with hr | hr
    · exact htells.legible hbefore r hr
    · rw [List.mem_singleton.1 hr]
      exact (happend hok).1
  · obtain ⟨hbefore, hok⟩ := hfine h'
    rw [(happend hok).2, hbytes, htells.bytes hbefore, List.flatMap_append, List.flatMap_singleton]

/-- What is written to outputs is not among what is told. -/
lemma output (h : IsAudited setup p start s) {files : Tree} (hq : (scope p start).writes q)
    (hoff : Tree.SameOff q s.files files) : IsAudited setup p start { s with files } := by
  obtain ⟨htrail, happlications⟩ := hq
  have hkept {a : Path} (ha : start.files.IsOff q a) :
      files.bytesAt (start.files.resolve a) = s.files.bytesAt (start.files.resolve a) :=
    hoff.bytesAt fun hon => ha ((Tree.isOn_of_here h.here).1 hon)
  exact h.of_bytesAt hoff.here (hkept htrail) fun a ha => hkept (happlications a ha)

lemma isInvariant (setup : Setup) (now : Instant) (huniform : start.store.IsUniform)
    (hseparate : ∀ q, start.store.vacancies.path? = some q
      ∨ start.store.applications.path? = some q → start.files.resolve q ≠ start.files.resolve p) :
    IsInvariant setup now (scope p start) (IsAudited setup p start) where
  quiet s s' events huntouched hevents _ h := h.quiet huntouched hevents
  vacancy s v vacancies files hinsert h :=
    h.vacancy huniform (fun q hq => (hseparate q (.inl hq)).symm) hinsert
  application s ruling applications files hinsert hruled h := by
    obtain ⟨s₀, vacancyId, applicantId, documents, v, -, -, hruling⟩ := hruled
    exact h.application (fun a ha => hseparate a (.inr ha)) hinsert hruling.isAbout
  output s q files hq hoff h := h.output hq hoff

end IsAudited

/-! ## Runs -/

/-- The lines of records, one after another, are what the text is split into at its line breaks. -/
lemma AuditRecord.splitOn_lines {records : List AuditRecord} (h : ∀ r ∈ records, r.IsLegible) :
    (records.flatMap fun r => r.lineChars ++ ['\n']).splitOn '\n'
      = records.map lineChars ++ [[]] := by
  induction records with
  | nil => rfl
  | cons r rest ih =>
    have hrest := ih fun r' hr' => h r' (List.mem_cons_of_mem _ hr')
    rw [List.flatMap_cons, List.append_assoc, List.singleton_append,
      List.splitOn_append_cons_self_of_not_mem (h r List.mem_cons_self).unbroken, hrest]
    rfl

/-- A run of errands whose trail is in a file that is not there at the start, and in which every
decision can be recorded, leaves a text there which splits at its line breaks into one JSON document
for each application that the run has stored, in the order in which they were stored, and nothing
after the last line break.  Each document is a record that tells of its application. -/
theorem Errand.run_audited (setup : Setup) {p : Path} {errands : List (Instant × Errand)}
    {s : Session} (huniform : s.store.IsUniform)
    (hseparate : { s with audit := .file p }.HasSeparateTrail)
    (hnew : s.files.item? (s.files.resolve p) = none)
    (houtputs : ∀ e ∈ errands, ∀ q ∈ e.2.outputs, s.files.IsOff q p
      ∧ ∀ a, s.store.applications.path? = some a → s.files.IsOff q a)
    (hrecorded : ∀ id message, Event.auditFailed id message
      ∉ (after setup errands { s with audit := .file p, events := [] }).events) :
    let last := after setup errands { s with audit := .file p, events := [] }
    ∃ (applications : List Application) (records : List AuditRecord) (text : List Char)
        (lines : List (List Char)),
      Collection.HasGrown applications s.files last.files s.store.applications
          last.store.applications
        ∧ last.files.bytesAt (last.files.resolve p) = Text.encodeUtf8 text
        ∧ text.splitOn '\n' = lines ++ [[]]
        ∧ List.Forall₂ (fun line r => Json.parse line = .ok r.toValue) lines records
        ∧ List.Forall₂ (AuditRecord.IsAbout setup) applications records := by
  intro last
  have hspared : ∀ q, s.store.vacancies.path? = some q ∨ s.store.applications.path? = some q →
      s.files.resolve q ≠ s.files.resolve p := fun q hq => hseparate q hq p rfl
  have hwithin : ∀ e ∈ errands,
      IsInvariant setup e.1 (IsAudited.scope p s) (IsAudited setup p s)
        ∧ e.2.IsWithin (IsAudited.scope p s) := fun e he =>
    ⟨IsAudited.isInvariant setup e.1 huniform hspared,
      isWithin_of (fun _ _ _ _ => trivial) (fun _ _ => ⟨trivial, trivial⟩) (houtputs e he)⟩
  -- at the start nothing is stored and nothing is told
  have hstart : IsAudited setup p s { s with audit := .file p, events := [] } :=
    { audit := rfl
      here := rfl
      vacancies := rfl
      told := ⟨[], [], .refl _ _, .nil, by simp,
        fun _ => by simp [Tree.bytesAt, hnew]⟩ }
  have hlast : IsAudited setup p s last := IsInvariant.run hwithin hstart
  obtain ⟨applications, records, htells⟩ := hlast.told
  -- the hypothesis names one kind of event, which is the only failure there is
  have hfine : ∀ e ∈ last.events, ¬e.IsFailure := by
    intro e he hfailure
    cases e with
    | auditFailed id message => exact hrecorded id message he
    | _ => cases hfailure
  have hlegible := htells.legible hfine
  refine ⟨applications, records, records.flatMap fun r => r.lineChars ++ ['\n'],
    records.map AuditRecord.lineChars, htells.grown, ?_, AuditRecord.splitOn_lines hlegible, ?_,
    htells.about⟩
  · rw [hlast.resolve, htells.bytes hfine, Text.encodeUtf8, List.flatMap_assoc]
    rfl
  · rw [List.forall₂_map_left_iff, List.forall₂_same]
    exact fun r hr => (hlegible r hr).parse

/-- Both applications for the posting are stored and recorded. -/
lemma Errand.isRecorded_twice :
    ∀ id message,
      Event.auditFailed id message ∉ (after {} twice Pipeline.analystSession).events := by
  have hafter : (after {} twice Pipeline.analystSession).events = _ :=
    congrArg (fun run => run.2.events)
      (run_twice (s := Pipeline.analystSession) rfl rfl (AuditTrail.isContained_file _))
  intro id message hmem
  rw [hafter] at hmem
  dsimp only at hmem
  rw [Pipeline.events_afterAnalyst (by decide +kernel),
    Pipeline.events_afterAnalyst (by decide +kernel)] at hmem
  simp [AuditRecord.decided, Pipeline.analystSession] at hmem

theorem Errand.run_audited_twice :
    let p : Path := ⟨"/", ["audit.jsonl"]⟩
    let start := Pipeline.analystSession
    let last := after {} twice { start with audit := .file p, events := [] }
    start.store.IsUniform ∧ { start with audit := .file p }.HasSeparateTrail
      ∧ start.files.item? (start.files.resolve p) = none
      ∧ (∀ e ∈ twice, ∀ q ∈ e.2.outputs, start.files.IsOff q p
        ∧ ∀ a, start.store.applications.path? = some a → start.files.IsOff q a)
      ∧ (∀ id message, Event.auditFailed id message ∉ last.events)
      ∧ ∃ (a b : Application) (r r' : AuditRecord) (text line line' : List Char),
        Collection.HasGrown [a, b] start.files last.files start.store.applications
            last.store.applications
          ∧ last.files.bytesAt ["audit.jsonl"] = Text.encodeUtf8 text
          ∧ text.splitOn '\n' = [line, line', []]
          ∧ Json.parse line = .ok r.toValue ∧ Json.parse line' = .ok r'.toValue
          ∧ r.IsAbout {} a ∧ r'.IsAbout {} b := by
  intro p start last
  have huniform : start.store.IsUniform := .memory _ _
  have hseparate : { start with audit := .file p }.HasSeparateTrail := by
    rintro q (hq | hq) <;> cases hq
  have houtputs : ∀ e ∈ twice, ∀ q ∈ e.2.outputs, start.files.IsOff q p
      ∧ ∀ a, start.store.applications.path? = some a → start.files.IsOff q a := by
    intro e he q hq
    simp only [twice, List.mem_cons, List.not_mem_nil, or_false, or_self] at he
    rw [he] at hq
    cases hq
  obtain ⟨applications, records, text, lines, hgrown, htext, hlines, hparse, habout⟩ :=
    run_audited {} huniform hseparate rfl houtputs isRecorded_twice
  have hlast : last = _ := congrArg Prod.snd
    (run_twice (s := Pipeline.analystSession) rfl rfl (AuditTrail.isContained_file _))
  -- the store has grown by the two applications, so there are two records and two lines
  have htwo : ∃ a b, applications = [a, b] := by
    obtain ⟨m, hheld, a, b, hm⟩ : ∃ m, last.store.applications = .memory m
        ∧ ∃ a b, m.records = [a, b] := by
      rw [hlast]
      exact ⟨_, rfl, _, _, rfl⟩
    have hgrown' : Collection.HasGrown applications start.files last.files (.memory .empty)
        last.store.applications := hgrown
    rw [hheld] at hgrown'
    cases hgrown' with
    | memory happlications => exact ⟨a, b, (happlications.symm.trans hm)⟩
  obtain ⟨a, b, rfl⟩ := htwo
  obtain ⟨r, _, ha, hrest, rfl⟩ := List.forall₂_cons_left_iff.1 habout
  obtain ⟨r', _, hb, hnil, rfl⟩ := List.forall₂_cons_left_iff.1 hrest
  cases hnil
  obtain ⟨line, _, hline, hrest, rfl⟩ := List.forall₂_cons_right_iff.1 hparse
  obtain ⟨line', _, hline', hnil, rfl⟩ := List.forall₂_cons_right_iff.1 hrest
  cases hnil
  exact ⟨huniform, hseparate, rfl, houtputs, isRecorded_twice, a, b, r, r', text, line, line',
    hgrown, htext, hlines, hline, hline', ha, hb⟩

end Shortlist
