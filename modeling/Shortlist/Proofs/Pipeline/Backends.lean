import Shortlist.Proofs.Audit
import Shortlist.Proofs.Batch.Run
import Shortlist.Proofs.Pipeline.Request
import Shortlist.Proofs.Store.Change
import Shortlist.Proofs.Store.Mirror

/-!
# The two kinds of store

A pipeline over a store in memory and one over a directory give the same answers as long as every
record has a line.  The proof is a simulation: while this is so, the two files of the directory
mirror the two collections in memory (`Reflects`).  A record without a line is refused by the
directory only, and from there on the two differ (`answers_eq_iff`).

Two things keep the simulation from being an equality.  A file holds records in their settled form,
with facts reduced; but an answer shows records as they are dumped, and a record with a line is
dumped like its settled form.  And the look-ups go different ways, by an index on the one side and
by reading the whole file on the other; both find the first record of an id because no id occurs
twice.
-/

namespace Shortlist

open Shortlist.Action (exec exec_bind exec_bind_ok exec_bind_error)

/-! ## Reflections -/

/-- A session over a directory reflects one over memory: its files mirror the collections, both draw
the same ids and have asked the extractor equally often.  Neither has a trail. -/
structure Reflection (directory : Path) (vacancies : MemoryCollection Vacancy)
    (applications : MemoryCollection Application) (s t : Session) : Prop where
  store : s.store = ⟨.memory vacancies, .memory applications⟩
  store' : t.store = .inDirectory directory
  vacancies : Mirrors vacancies t.files (directory.child Store.vacanciesName)
  applications : Mirrors applications t.files (directory.child Store.applicationsName)
  ids : t.ids = s.ids
  asked : t.asked = s.asked
  trail : s.audit = .off
  trail' : t.audit = .off

/-- A session over a directory reflects one over memory. -/
def Reflects (directory : Path) (s t : Session) : Prop :=
  ∃ vacancies applications, Reflection directory vacancies applications s t

/-- Without trails nothing escapes. -/
lemma Reflects.isContained {directory : Path} {s t : Session} (h : Reflects directory s t) :
    s.audit.IsContained ∧ t.audit.IsContained := by
  obtain ⟨_, _, h⟩ := h
  exact ⟨h.trail ▸ AuditTrail.isContained_off, h.trail' ▸ AuditTrail.isContained_off⟩

variable {directory : Path} {s t : Session} {setup : Setup} {now : Instant} {α β : Type}

/-- An action comes to the same thing in two sessions, and they reflect each other afterwards. -/
def Agrees (directory : Path) (s t : Session) (action : Action α) : Prop :=
  (exec action t).1 = (exec action s).1 ∧ Reflects directory (exec action s).2 (exec action t).2

lemma Agrees.bind {x : Action α} {f : α → Action β} (hx : Agrees directory s t x)
    (hf : ∀ {s' t'} a, exec x s = (.ok a, s') → Reflects directory s' t' →
      Agrees directory s' t' (f a)) : Agrees directory s t (x >>= f) :=
  Action.exec_bind_related hx fun a _ _ hfirst hreflects => hf a hfirst hreflects

lemma agrees_pure (a : α) (h : Reflects directory s t) : Agrees directory s t (pure a) := ⟨rfl, h⟩

lemma agrees_throw (fault : Fault) (h : Reflects directory s t) :
    Agrees directory s t (throw fault : Action α) := ⟨rfl, h⟩

lemma agrees_lift (outcome : Except Fault α) (h : Reflects directory s t) :
    Agrees directory s t (ExceptT.mk (pure outcome)) := ⟨rfl, h⟩

/-! ## Steps of work -/

lemma agrees_ofStore (outcome : Except StoreFault α) (h : Reflects directory s t) :
    Agrees directory s t (Session.ofStore outcome) := by
  cases outcome with
  | error fault => exact agrees_throw _ h
  | ok a => exact agrees_pure a h

lemma agrees_report (events : List Event) (h : Reflects directory s t) :
    Agrees directory s t (Session.report events) := by
  obtain ⟨vacancies, applications, h⟩ := h
  exact ⟨rfl, vacancies, applications, h.store, h.store', h.vacancies, h.applications, h.ids,
    h.asked, h.trail, h.trail'⟩

lemma agrees_freshId (word : String) (h : Reflects directory s t) :
    Agrees directory s t (Session.freshId word) := by
  obtain ⟨vacancies, applications, h⟩ := h
  rw [Agrees, Session.exec_freshId, Session.exec_freshId, h.ids]
  exact ⟨rfl, vacancies, applications, h.store, h.store', h.vacancies, h.applications, rfl, h.asked,
    h.trail, h.trail'⟩

lemma agrees_askExtractor (extractor : Extractor) (documents : Documents)
    (h : Reflects directory s t) :
    Agrees directory s t (Session.askExtractor extractor documents) := by
  obtain ⟨vacancies, applications, h⟩ := h
  rw [Agrees, Session.exec_askExtractor, Session.exec_askExtractor, h.asked]
  exact ⟨rfl, vacancies, applications, h.store, h.store', h.vacancies, h.applications, h.ids, rfl,
    h.trail, h.trail'⟩

lemma agrees_record (r : AuditRecord) (h : Reflects directory s t) :
    Agrees directory s t (Session.record r) := by
  obtain ⟨vacancies, applications, h⟩ := h
  rw [Agrees, Session.exec_record, Session.exec_record, h.trail, h.trail', AuditTrail.append_off,
    AuditTrail.append_off]
  exact ⟨rfl, vacancies, applications, h.store, h.store', h.vacancies, h.applications, h.ids,
    h.asked, rfl, rfl⟩

lemma agrees_insertVacancy {v : Vacancy} (h : Reflects directory s t)
    (hline : Record.lineFault? v = none) : Agrees directory s t (Session.insertVacancy v) := by
  obtain ⟨vacancies, applications, h⟩ := h
  rw [Agrees, Session.exec_insertVacancy, Session.exec_insertVacancy, h.store, h.store',
    Store.inDirectory, Collection.insert_memory]
  rcases h.vacancies.insert hline v.isDecoded_toValue with
    ⟨fault, hmemory, hfile⟩ | ⟨vacancies', files', content, hmemory, hfile, hwrite, hmirrors⟩
  · rw [hmemory, hfile]
    exact ⟨rfl, vacancies, applications, h⟩
  · rw [hmemory, hfile]
    have hne : t.files.resolve (directory.child Store.applicationsName)
        ≠ t.files.resolve (directory.child Store.vacanciesName) :=
      ((Store.IsUniform.directory directory).resolve_ne rfl rfl t.files).symm
    exact ⟨rfl, vacancies', applications, rfl, rfl, hmirrors, h.applications.write_ne hwrite hne,
      h.ids, h.asked, h.trail, h.trail'⟩

lemma agrees_insertApplication {a : Application} (h : Reflects directory s t)
    (hline : Record.lineFault? a = none) (hdecoded : a.documents.HasDecodedFacts) :
    Agrees directory s t (Session.insertApplication a) := by
  obtain ⟨vacancies, applications, h⟩ := h
  rw [Agrees, Session.exec_insertApplication, Session.exec_insertApplication, h.store, h.store',
    Store.inDirectory, Collection.insert_memory]
  rcases h.applications.insert hline (Application.isDecoded_toValue hdecoded) with
    ⟨fault, hmemory, hfile⟩ | ⟨applications', files', content, hmemory, hfile, hwrite, hmirrors⟩
  · rw [hmemory, hfile]
    exact ⟨rfl, vacancies, applications, h⟩
  · rw [hmemory, hfile]
    have hne : t.files.resolve (directory.child Store.vacanciesName)
        ≠ t.files.resolve (directory.child Store.applicationsName) :=
      (Store.IsUniform.directory directory).resolve_ne rfl rfl t.files
    exact ⟨rfl, vacancies, applications', rfl, rfl, h.vacancies.write_ne hwrite hne, hmirrors,
      h.ids, h.asked, h.trail, h.trail'⟩

/-- Both stores know the same vacancies. -/
lemma get?_vacancies (h : Reflects directory s t) (id : Text) :
    t.store.vacancies.get? t.files id = s.store.vacancies.get? s.files id := by
  obtain ⟨vacancies, applications, h⟩ := h
  rw [h.store, h.store', Store.inDirectory, h.vacancies.get?_eq, Collection.get?]
  exact congrArg _ Option.map_id'

/-! ## Requests -/

namespace Pipeline

lemma agrees_openSubmission (vacancyId : Text) (applicantId : Option Text)
    (documents : Documents) (h : Reflects directory s t) :
    Agrees directory s t (openSubmission vacancyId applicantId documents) := by
  have hget := get?_vacancies h vacancyId
  rw [Agrees, openSubmission, exec_bind_ok (Action.exec_get s), exec_bind_ok (Action.exec_get t),
    hget]
  refine (agrees_ofStore _ h).bind fun found _ h' => ?_
  cases found with
  | none => exact (agrees_report _ h').bind fun _ _ h'' => agrees_throw _ h''
  | some v => exact agrees_pure _ h'

lemma agrees_draw (submission : OpenSubmission) (facts : Facts) (decision : Decision)
    (h : Reflects directory s t) :
    Agrees directory s t (draw setup now submission facts decision) := by
  have hid : Agrees directory s t (applicationId setup.applicationIds) := by
    cases setup.applicationIds with
    | drawn => exact agrees_freshId _ h
    | always id => exact agrees_pure _ h
  exact hid.bind fun id _ h' => (agrees_lift _ h').bind fun feedback _ h'' =>
    agrees_pure _ h''

lemma agrees_judge (submission : OpenSubmission)
    (extracted : List Event × Except ExtractionFault Facts) (h : Reflects directory s t) :
    Agrees directory s t (judge setup now submission extracted) := by
  refine (agrees_report _ h).bind fun _ _ h' => ?_
  cases extracted.2 with
  | error fault => exact agrees_throw _ h'
  | ok facts =>
    dsimp only
    cases Decision.ofFacts setup now submission.vacancy.requirements facts with
    | error fault => exact agrees_throw _ h'
    | ok decision => exact agrees_draw submission facts decision h'

lemma agrees_rule (vacancyId : Text) (applicantId : Option Text) (documents : Documents)
    (h : Reflects directory s t) :
    Agrees directory s t (rule setup now vacancyId applicantId documents) :=
  (agrees_openSubmission _ _ _ h).bind fun submission _ h' =>
    (agrees_askExtractor _ _ h').bind fun extracted _ h'' =>
      agrees_judge submission extracted h''

lemma agrees_settle {ruling : Ruling} (h : Reflects directory s t)
    (hline : Record.lineFault? ruling.application = none)
    (hdecoded : ruling.application.documents.HasDecodedFacts) :
    Agrees directory s t (settle ruling) :=
  (agrees_insertApplication h hline hdecoded).bind fun _ _ h' =>
    (agrees_report _ h').bind fun _ _ h'' =>
      (agrees_record _ h'').bind fun _ _ h₃ => agrees_pure _ h₃

lemma agrees_ofCheck (subject : Subject) (check : Check α) (h : Reflects directory s t) :
    Agrees directory s t (ofCheck subject check) := by
  cases check with
  | accepted a => exact agrees_pure a h
  | refused issues => exact agrees_throw _ h
  | broken fault => exact agrees_throw _ h

lemma agrees_registerVacancy {draft : VacancyDraft} (h : Reflects directory s t)
    (hline : Record.lineFault? (draft.register (s.ids.fresh "vac").1 (timeText now)) = none) :
    Agrees directory s t (registerVacancy now draft) := by
  refine (agrees_freshId "vac" h).bind fun id hid h' => ?_
  rw [Session.exec_freshId] at hid
  cases hid
  exact (agrees_insertVacancy h' hline).bind fun _ _ h₁ =>
    (agrees_report _ h₁).bind fun _ _ h₂ => agrees_pure _ h₂

lemma agrees_createVacancy {document : Value} (h : Reflects directory s t)
    (hline : (Request.createVacancy document).HasLine setup now s) :
    Agrees directory s t (createVacancy now document) := by
  refine (agrees_ofCheck _ _ h).bind fun draft hdraft h' => ?_
  obtain ⟨hread, rfl⟩ := exec_ofCheck_ok hdraft
  exact agrees_registerVacancy h' (hline draft hread)

lemma hasDecodedFacts_of_rule {vacancyId : Text} {applicantId : Option Text}
    {documents : Documents} {ruling : Ruling} {s' : Session} (hsetup : setup.HasStandardExtractor)
    (hdocuments : documents.HasDecodedFacts)
    (h : exec (rule setup now vacancyId applicantId documents) s = (.ok ruling, s')) :
    ruling.application.documents.HasDecodedFacts := by
  obtain ⟨v, hruling⟩ := isRuling_of_rule h
  obtain ⟨defaults, hextractor, hdefaults⟩ := hsetup
  have hextracted := hruling.extracted
  rw [hextractor, Extractor.run_standard] at hextracted
  rw [hruling.documents, ← Except.ok.inj hextracted]
  rintro facts hfacts
  cases hfacts
  cases hknown : documents.facts with
  | none => exact hdefaults
  | some known => exact hdocuments known hknown

lemma agrees_submitDocument {document : Value} (h : Reflects directory s t)
    (hsetup : setup.HasStandardExtractor) (hread : (Request.submit document).IsRead)
    (hline : (Request.submit document).HasLine setup now s) :
    Agrees directory s t (submitDocument setup now document) := by
  refine (agrees_ofCheck _ _ h).bind fun submission hsubmission h' => ?_
  obtain ⟨haccepted, rfl⟩ := exec_ofCheck_ok hsubmission
  obtain ⟨text, hparse⟩ := hread
  have hdocuments : submission.documents.HasDecodedFacts :=
    Submission.hasDecodedFacts_of_read (Json.isDecoded_of_parse hparse) haccepted
  rw [submit, createApplication_eq]
  exact (agrees_rule _ _ _ h').bind fun ruling hruling h'' =>
    agrees_settle h'' (hline submission haccepted ruling _ hruling)
      (hasDecodedFacts_of_rule hsetup hdocuments hruling)

lemma agrees_getVacancy (vacancyId : Text) (h : Reflects directory s t) :
    Agrees directory s t (getVacancy vacancyId) := by
  have hget := get?_vacancies h vacancyId
  rw [Agrees, getVacancy, exec_bind_ok (Action.exec_get s), exec_bind_ok (Action.exec_get t), hget]
  refine (agrees_ofStore _ h).bind fun found _ h' => ?_
  cases found with
  | none => exact agrees_throw _ h'
  | some v => exact agrees_pure _ h'

/-- Both stores list the same vacancies. -/
lemma agrees_listVacancies (h : Reflects directory s t) :
    Agrees directory s t (Request.listVacancies.action setup now) := by
  obtain ⟨vacancies, applications, h⟩ := h
  have hs : exec listVacancies s = (.ok vacancies.records, s) := by
    rw [listVacancies, exec_bind_ok (Action.exec_get s), Session.exec_ofStore, h.store]
    rfl
  have ht : exec listVacancies t = (.ok (vacancies.records.map LawfulRecord.settled), t) := by
    rw [listVacancies, exec_bind_ok (Action.exec_get t), Session.exec_ofStore, h.store',
      Store.inDirectory, h.vacancies.toList_eq]
    rfl
  rw [Agrees, Request.action, exec_bind_ok hs, exec_bind_ok ht,
    h.vacancies.dump?_settled (List.Subset.refl _)]
  exact ⟨rfl, vacancies, applications, h⟩

/-- Both stores list the same applications. -/
lemma agrees_listApplications (vacancyId : Option Text) (h : Reflects directory s t) :
    Agrees directory s t ((Request.listApplications vacancyId).action setup now) := by
  obtain ⟨vacancies, applications, h⟩ := h
  -- one list for both sides; the directory has the settled forms of what is in it
  have hlists : ∃ records, records ⊆ applications.records
      ∧ exec (listApplications vacancyId) s = (.ok records, s)
      ∧ exec (listApplications vacancyId) t = (.ok (records.map LawfulRecord.settled), t) := by
    cases vacancyId with
    | none =>
      refine ⟨applications.records, List.Subset.refl _, ?_, ?_⟩
      · rw [listApplications, exec_bind_ok (Action.exec_get s)]
        dsimp only
        rw [Session.exec_ofStore, h.store]
        rfl
      · rw [listApplications, exec_bind_ok (Action.exec_get t)]
        dsimp only
        rw [Session.exec_ofStore, h.store', Store.inDirectory, h.applications.toList_eq]
        rfl
    | some id =>
      refine ⟨applications.filter fun a => a.vacancyId = id, List.filter_subset_self _, ?_, ?_⟩
      · rw [listApplications, exec_bind_ok (Action.exec_get s)]
        dsimp only
        rw [Session.exec_ofStore, h.store]
        rfl
      · rw [listApplications, exec_bind_ok (Action.exec_get t)]
        dsimp only
        rw [Session.exec_ofStore, h.store', Store.inDirectory,
          h.applications.filter_eq fun _ => rfl]
        rfl
  obtain ⟨records, hsubset, hs, ht⟩ := hlists
  rw [Agrees, Request.action, exec_bind_ok hs, exec_bind_ok ht,
    h.applications.dump?_settled hsubset]
  exact ⟨rfl, vacancies, applications, h⟩

end Pipeline

/-- A request that stores nothing without a line is answered by both stores alike. -/
lemma agrees_action {request : Request} (h : Reflects directory s t)
    (hsetup : setup.HasStandardExtractor) (hread : request.IsRead)
    (hline : request.HasLine setup now s) : Agrees directory s t (request.action setup now) := by
  cases request with
  | createVacancy document =>
    exact (Pipeline.agrees_createVacancy h hline).bind fun _ _ h' => agrees_pure _ h'
  | submit document =>
    exact (Pipeline.agrees_submitDocument h hsetup hread hline).bind fun _ _ h' => agrees_pure _ h'
  | listVacancies => exact Pipeline.agrees_listVacancies h
  | getVacancy vacancyId =>
    exact (Pipeline.agrees_getVacancy vacancyId h).bind fun _ _ h' => agrees_pure _ h'
  | listApplications vacancyId => exact Pipeline.agrees_listApplications vacancyId h

/-! ## Records without a line -/

/-- The answer to a document that describes a vacancy. -/
lemma exec_createVacancy_fst {document : Value} {draft : VacancyDraft}
    (hread : VacancyDraft.read document = .accepted draft) (s : Session) :
    (exec ((Request.createVacancy document).action setup now) s).1
      = (((s.store.vacancies.insert s.files (draft.register (s.ids.fresh "vac").1
          (Pipeline.timeText now))).map fun _ => draft.register (s.ids.fresh "vac").1
            (Pipeline.timeText now)).mapError .store).map fun v => [Record.dump? v] := by
  have hcreate : Pipeline.createVacancy now document = Pipeline.registerVacancy now draft := by
    rw [Pipeline.createVacancy, hread]
    rfl
  rw [Request.action, Action.exec_bind_pure, hcreate, Pipeline.registerVacancy,
    exec_bind_ok (Session.exec_freshId s "vac")]
  dsimp only
  rw [exec_bind, Session.exec_insertVacancy]
  cases s.store.vacancies.insert s.files (draft.register (s.ids.fresh "vac").1
    (Pipeline.timeText now)) <;> rfl

/-- The answer to a submission on which a ruling was made. -/
lemma exec_submit_fst {document : Value} {submission : Submission} {ruling : Ruling}
    {s' : Session} (hcontained : s'.audit.IsContained)
    (hread : Submission.read document = .accepted submission)
    (hrule : exec (Pipeline.rule setup now submission.vacancyId.text submission.applicantId
      submission.documents) s = (.ok ruling, s')) :
    (exec ((Request.submit document).action setup now) s).1
      = (((s'.store.applications.insert s'.files ruling.application).map
          fun _ => ruling.application).mapError .store).map fun a => [Record.dump? a] := by
  have hsubmit : Pipeline.submitDocument setup now document
      = Pipeline.rule setup now submission.vacancyId.text submission.applicantId
          submission.documents >>= Pipeline.settle := by
    rw [Pipeline.submitDocument, hread, ← Pipeline.createApplication_eq]
    rfl
  rw [Request.action, Action.exec_bind_pure, hsubmit, exec_bind_ok hrule,
    Pipeline.exec_settle_fst hcontained]

/-- A record without a line is refused in a file, and in memory it is not refused for that. -/
lemma outcome_ne_of_lineFault {γ : Type} [Record γ] {a : γ} {fault : Value.PlainFault}
    (hfault : Record.lineFault? a = some fault) (m : MemoryCollection γ) (files files' : Tree)
    (p : Path) (f : γ → Shown) :
    (((((Collection.file p).insert files' a).map fun _ => a).mapError Fault.store).map f)
      ≠ ((((Collection.memory m).insert files a).map fun _ => a).mapError Fault.store).map f := by
  intro heq
  have hmemory : ((((Collection.memory m).insert files a).map fun _ => a).mapError
      Fault.store).map f = .error (.store (.noLine fault)) := by
    rw [← heq, insert_file_of_lineFault hfault]
    rfl
  obtain ⟨fault', hinsert, hstore⟩ :=
    Except.mapError_eq_error.1 (Except.map_eq_error.1 hmemory)
  cases hstore
  rw [Except.map_eq_error, Collection.insert_memory, Except.map_eq_error] at hinsert
  exact insert_memory_ne_noLine m a fault hinsert

/-- A request that is about to store a record without a line is answered by the two stores
differently. -/
lemma action_ne_of_not_hasLine {request : Request} (h : Reflects directory s t)
    (hnot : ¬request.HasLine setup now s) :
    (exec (request.action setup now) t).1 ≠ (exec (request.action setup now) s).1 := by
  cases request with
  | createVacancy document =>
    simp only [Request.HasLine, not_forall] at hnot
    obtain ⟨draft, hread, hline⟩ := hnot
    obtain ⟨fault, hfault⟩ := Option.ne_none_iff_exists'.1 hline
    obtain ⟨vacancies, applications, h⟩ := h
    rw [exec_createVacancy_fst hread, exec_createVacancy_fst hread, h.ids, h.store, h.store',
      Store.inDirectory]
    exact outcome_ne_of_lineFault hfault _ _ _ _ _
  | submit document =>
    simp only [Request.HasLine, not_forall] at hnot
    obtain ⟨submission, hread, ruling, s', hrule, hline⟩ := hnot
    obtain ⟨fault, hfault⟩ := Option.ne_none_iff_exists'.1 hline
    -- up to the ruling the two agree, and the insertion is where they part
    have hagrees : Agrees directory s t (Pipeline.rule setup now submission.vacancyId.text
        submission.applicantId submission.documents) := Pipeline.agrees_rule _ _ _ h
    rw [Agrees, hrule] at hagrees
    generalize hrule' : exec (Pipeline.rule setup now submission.vacancyId.text
      submission.applicantId submission.documents) t = second at hagrees
    obtain ⟨outcome, t'⟩ := second
    obtain ⟨houtcome, hreflects⟩ := hagrees
    obtain ⟨hcontained, hcontained'⟩ := hreflects.isContained
    obtain ⟨vacancies, applications, h'⟩ := hreflects
    obtain rfl : outcome = .ok ruling := houtcome
    rw [exec_submit_fst hcontained hread hrule, exec_submit_fst hcontained' hread hrule', h'.store,
      h'.store',
      Store.inDirectory]
    exact outcome_ne_of_lineFault hfault _ _ _ _ _
  | listVacancies => exact absurd trivial hnot
  | getVacancy vacancyId => exact absurd trivial hnot
  | listApplications vacancyId => exact absurd trivial hnot

/-! ## Runs of requests -/

/-- While two sessions reflect each other, the answers to requests are the same exactly if every
record that one of them is about to store has a line. -/
lemma answers_eq_iff_of_reflects {requests : List (Instant × Request)}
    (h : Reflects directory s t) (hsetup : setup.HasStandardExtractor)
    (hread : ∀ r ∈ requests, r.2.IsRead) :
    Request.answers setup requests t = Request.answers setup requests s
      ↔ Request.HasLines setup requests s := by
  induction requests generalizing s t with
  | nil => exact iff_of_true rfl trivial
  | cons r requests ih =>
    obtain ⟨now, request⟩ := r
    rw [Request.answers, Request.answers, Request.HasLines, List.cons.injEq]
    by_cases hline : request.HasLine setup now s
    · obtain ⟨houtcome, h'⟩ := agrees_action h hsetup (hread _ List.mem_cons_self) hline
      rw [ih h' fun r hr => hread r (List.mem_cons_of_mem _ hr)]
      exact ⟨fun ⟨_, hrest⟩ => ⟨hline, hrest⟩, fun ⟨_, hrest⟩ => ⟨houtcome, hrest⟩⟩
    · exact iff_of_false (fun heq => action_ne_of_not_hasLine h hline heq.1)
        fun hlines => hline hlines.1

/-- A directory in which neither file of a store is there yet, but can be written. -/
def IsFresh (files : Tree) (directory : Path) : Prop :=
  ∀ name ∈ [Store.vacanciesName, Store.applicationsName],
    files.readIfThere (directory.child name) = .ok none ∧ files.HasRoom (directory.child name)

lemma reflects_fresh {files : Tree} (h : IsFresh files directory) (ids : IdSource) :
    Reflects directory { files, store := .inMemory, ids }
      { files, store := .inDirectory directory, ids } := by
  obtain ⟨hread, hroom⟩ := h Store.vacanciesName (by simp)
  obtain ⟨hread', hroom'⟩ := h Store.applicationsName (by simp)
  exact ⟨.empty, .empty, rfl, rfl, .empty hread hroom, .empty hread' hroom', rfl, rfl, rfl, rfl⟩

/-- A pipeline over a fresh store in memory and one over a fresh directory, with the standard
extractor, the same draws and the same times, give the same answers to requests whose documents were
read from JSON texts exactly if every record that one of the requests is about to store has a
line. -/
theorem Request.answers_eq_iff {files : Tree} {requests : List (Instant × Request)}
    (hfresh : IsFresh files directory) (hsetup : setup.HasStandardExtractor)
    (hread : ∀ r ∈ requests, r.2.IsRead) (ids : IdSource) :
    answers setup requests { files, store := .inDirectory directory, ids }
        = answers setup requests { files, store := .inMemory, ids }
      ↔ HasLines setup requests { files, store := .inMemory, ids } :=
  answers_eq_iff_of_reflects (reflects_fresh hfresh ids) hsetup hread

/-- The root of a tree. -/
def rootPath : Path := ⟨"/", []⟩

/-- An application for the first posting that is registered. -/
def firstSubmission : Submission := ⟨some "ada", Pipeline.firstPostingId, {}⟩

/-- A posting is registered, somebody applies for it, and the applications are looked at. -/
def analystRequests : List (Instant × Request) :=
  [(Pipeline.analystDay, .createVacancy analystDraft.toValue),
    (Pipeline.analystDay, .submit firstSubmission.toValue),
    (Pipeline.analystDay, .listApplications none)]

lemma isFresh_bare : IsFresh .bare rootPath := by
  intro name hname
  simp only [List.mem_cons, List.not_mem_nil, or_false] at hname
  rcases hname with rfl | rfl
  · exact ⟨rfl, rfl, rfl, by decide⟩
  · exact ⟨rfl, rfl, rfl, by decide⟩

lemma isRead_analystRequests : ∀ r ∈ analystRequests, r.2.IsRead := by
  have hread {v : Value} {n : Nat} (hplain : v.IsPlain) (hdecoded : v.IsDecoded)
      (hlevels : v.plainFault? true n = none) (hn : n ≤ Json.nestingLimit) :
      ∃ text, Json.parse text = .ok v :=
    have hparse : Json.parse (CodePoint.chars (Json.write .record 0 v)) = .ok v :=
      Json.parse_write Json.Style.isSpaced_record hplain hdecoded hlevels hn
    ⟨_, hparse⟩
  intro r hr
  simp only [analystRequests, List.mem_cons, List.not_mem_nil, or_false] at hr
  rcases hr with rfl | rfl | rfl
  · exact hread (n := 2) (by rfl) analystDraft.isDecoded_toValue rfl (by decide)
  · exact hread (n := 3) (by rfl) (Submission.isDecoded_toValue nofun) rfl (by decide)
  · trivial

/-- The ruling on the submission, in a session that holds the posting and has drawn nothing else. -/
def firstRuling : Ruling where
  application := OpenSubmission.decided ⟨Pipeline.firstPosting, some "ada", {}⟩ Pipeline.analystDay
    (identifier "app" 2) .usual ⟨⟨[]⟩, some "; "⟩ none
  evaluation := ⟨[]⟩
  facts := .usual

/-- The submission is ruled on in such a session. -/
lemma exec_rule_first {s : Session} (hstore : s.store = Pipeline.firstStore)
    (hids : s.ids = ⟨[], 2⟩) :
    exec (Pipeline.rule {} Pipeline.analystDay firstSubmission.vacancyId.text (some "ada") {}) s
      = (.ok firstRuling, { s with
          asked := s.asked + 1, ids := ⟨[], 3⟩, events := s.events ++ [.defaultsUsed] }) := by
  have hget : s.store.vacancies.get? s.files firstSubmission.vacancyId.text
      = .ok (some Pipeline.firstPosting) := Pipeline.get?_firstStore (by rw [hstore])
  rw [Pipeline.rule, exec_bind_ok (Pipeline.exec_openSubmission_of_get? hget),
    exec_bind_ok (Session.exec_askExtractor _ _ _)]
  obtain ⟨files, store, ids, asked, audit, events⟩ := s
  subst hids
  have hfacts : (([.defaultsUsed], .ok .usual) : List Event × Except ExtractionFault Facts).2
      = .ok .usual := rfl
  have hdecision : Decision.ofFacts {} Pipeline.analystDay
      Pipeline.firstPosting.requirements .usual = .ok ⟨⟨[]⟩, some "; "⟩ := rfl
  have hfeedback : Decision.feedback ⟨⟨[]⟩, some "; "⟩ = .ok none := rfl
  exact Pipeline.exec_judge_of_decision ⟨Pipeline.firstPosting, some "ada", {}⟩
    ⟨files, store, ⟨[], 2⟩, asked + 1, audit, events⟩ hfacts hdecision hfeedback

/-- A posting is registered in both stores, and the application for it is accepted and listed. -/
theorem Request.answers_eq_analyst :
    IsFresh .bare rootPath ∧ ({} : Setup).HasStandardExtractor
      ∧ (∀ r ∈ analystRequests, r.2.IsRead)
      ∧ ∃ a : Application, a.status = .accepted
        ∧ answers {} analystRequests { files := .bare, store := .inDirectory rootPath, ids := {} }
          = [.ok [Record.dump? Pipeline.firstPosting], .ok [Record.dump? a],
            .ok [Record.dump? a]] := by
  have hsetup : ({} : Setup).HasStandardExtractor := ⟨.usual, rfl, Facts.isDecoded_usual⟩
  obtain ⟨events, hcreate⟩ := Pipeline.exec_createVacancy_first
    (s := { files := .bare, store := .inMemory, ids := {} }) rfl rfl
  have hregister : exec ((Request.createVacancy analystDraft.toValue).action {} Pipeline.analystDay)
        { files := .bare, store := .inMemory, ids := {} }
      = (.ok [Record.dump? Pipeline.firstPosting],
          { files := .bare, store := Pipeline.firstStore, ids := ⟨[], 2⟩, events }) :=
    exec_bind_ok hcreate _
  generalize hs : ({
    files := .bare, store := Pipeline.firstStore, ids := ⟨[], 2⟩, events } : Session)
    = s at hregister
  have hstore : s.store = Pipeline.firstStore := by rw [← hs]
  have hrule := exec_rule_first hstore (by rw [← hs])
  have hline : Record.lineFault? firstRuling.application = none := by decide +kernel
  have hlines : HasLines {} analystRequests { files := .bare, store := .inMemory, ids := {} } := by
    rw [analystRequests, HasLines, hregister]
    refine ⟨fun draft hdraft => ?_, fun submission hsubmission ruling s' hruling => ?_, trivial,
      trivial⟩
    · have haccepted : VacancyDraft.read analystDraft.toValue = .accepted analystDraft := rfl
      cases haccepted.symm.trans hdraft
      rfl
    · rw [firstSubmission.read_toValue] at hsubmission
      cases hsubmission
      cases hrule.symm.trans hruling
      exact hline
  have hsubmit : exec ((Request.submit firstSubmission.toValue).action {} Pipeline.analystDay) s
      = (.ok [Record.dump? firstRuling.application], ({ s with
          asked := s.asked + 1, ids := ⟨[], 3⟩, events := s.events ++ [.defaultsUsed] :
            Session }).settled firstRuling
          (.memory ⟨[firstRuling.application], ({} : Std.HashMap Text Application).insert
            firstRuling.application.id firstRuling.application⟩) s.files) := by
    have hcreate := Pipeline.createApplication_eq {} Pipeline.analystDay
      firstSubmission.vacancyId.text (some "ada") {}
    have hsettle := Pipeline.exec_settle_of_contained (s := { s with
        asked := s.asked + 1, ids := ⟨[], 3⟩, events := s.events ++ [.defaultsUsed] })
      (by rw [← hs]; exact AuditTrail.isContained_off) firstRuling
      (Pipeline.insert_firstStore hstore _)
    have happlied := exec_bind_ok hrule Pipeline.settle
    rw [← hcreate, hsettle] at happlied
    exact exec_bind_ok (by
      rw [Pipeline.submitDocument, firstSubmission.read_toValue]
      exact happlied) _
  -- only the run in memory has been followed, and the directory answers as it does
  refine ⟨isFresh_bare, hsetup, isRead_analystRequests, firstRuling.application, rfl, ?_⟩
  rw [(answers_eq_iff isFresh_bare hsetup isRead_analystRequests {}).2 hlines, analystRequests]
  simp only [answers, hregister, hsubmit]
  rfl

end Shortlist
