import Shortlist.Proofs.Identifier
import Shortlist.Proofs.Pipeline.Errand
import Shortlist.Proofs.Pipeline.Submission
import Shortlist.Proofs.Store.Issued

/-!
# Where ids come from

A session that came about from another one by drawing ids (`Session.HasIssued`): the records in its
store have ids that were drawn since then, in the order of the draws, those of vacancies and those
of applications apart.  A draw that came to nothing leaves no record, so there may be more draws
than records.

An action that makes some more draws and keeps this (`Action.Issues`) says that an id is taken only
if a number was drawn twice: a record is always added under the id that was drawn last, and no
record has this id yet.  The law for sequences of actions (`Issues.bind`) puts the draws of the
parts one after another.
-/

namespace Shortlist

open Shortlist.Action (exec exec_bind exec_bind_ok)

/-! ## Sessions -/

/-- The records in the store of a session have ids that were drawn since the start, in their order.
The collections are where they were at the start. -/
structure Session.HasIssued (start : Session) (draws : List Draw) (s : Session) : Prop where
  ids : start.ids.Gives draws s.ids
  here : s.files.here = start.files.here
  vacanciesPath : s.store.vacancies.path? = start.store.vacancies.path?
  applicationsPath : s.store.applications.path? = start.store.applications.path?
  vacancies : s.store.vacancies.IsIssued s.files (Draw.idsFor "vac" draws)
  applications : s.store.applications.IsIssued s.files (Draw.idsFor "app" draws)

/-- A record is refused because its id is taken only if the number of the id was drawn twice. -/
lemma Collection.IsIssued.not_areDistinct {α : Type} [Record α] {c : Collection α} {files : Tree}
    {a : α} {word : String} {draws : List Draw} {d : Draw} {fault : StoreFault}
    (h : c.IsIssued files (Draw.idsFor word draws)) (hid : Record.id a = d.id)
    (hinsert : c.insert files a = .error fault) (hfault : fault.IsDuplicate) :
    ¬Draw.AreDistinct (draws ++ [d]) :=
  fun hdistinct => hdistinct.id_not_mem (Draw.idsFor_sublist word draws)
    (hid ▸ h.mem_of_insert hinsert hfault)

namespace Session.HasIssued

variable {start s s' : Session} {draws more : List Draw} {files : Tree}

lemma resolve (h : start.HasIssued draws s) (q : Path) :
    s.files.resolve q = start.files.resolve q := Tree.resolve_of_here h.here q

/-- Draws alone change nothing in the store. -/
lemma draw (h : start.HasIssued draws s) (huntouched : Pipeline.Untouched s s')
    (hgives : start.ids.Gives (draws ++ more) s'.ids) : start.HasIssued (draws ++ more) s' where
  ids := hgives
  here := by rw [huntouched.files, h.here]
  vacanciesPath := by rw [huntouched.store, h.vacanciesPath]
  applicationsPath := by rw [huntouched.store, h.applicationsPath]
  vacancies := by
    rw [huntouched.store, huntouched.files, Draw.idsFor_append]
    exact h.vacancies.mono (List.sublist_append_left _ _)
  applications := by
    rw [huntouched.store, huntouched.files, Draw.idsFor_append]
    exact h.applications.mono (List.sublist_append_left _ _)

/-- Audit trails and outputs may do to the files what they like. -/
lemma meddle (h : start.HasIssued draws s) (hfiles : s.files.IsMeddled files) :
    start.HasIssued draws { s with files } where
  ids := h.ids
  here := hfiles.here.trans h.here
  vacanciesPath := h.vacanciesPath
  applicationsPath := h.applicationsPath
  vacancies := h.vacancies.of_isMeddled hfiles
  applications := h.applications.of_isMeddled hfiles

/-- Whatever is written to other files does not matter. -/
lemma elsewhere (h : start.HasIssued draws s) {p : Path} {content : Text.Bytes}
    (hwrite : s.files.write p content = .ok files)
    (hvacancies : ∀ q, start.store.vacancies.path? = some q →
      start.files.resolve q ≠ start.files.resolve p)
    (happlications : ∀ q, start.store.applications.path? = some q →
      start.files.resolve q ≠ start.files.resolve p) : start.HasIssued draws { s with files } where
  ids := h.ids
  here := (Tree.here_write hwrite).trans h.here
  vacanciesPath := h.vacanciesPath
  applicationsPath := h.applicationsPath
  vacancies := h.vacancies.of_bytesAt (Tree.here_write hwrite) fun q hq =>
    Tree.bytesAt_write_ne hwrite (by
      rw [h.resolve, h.resolve]
      exact hvacancies q (h.vacanciesPath ▸ hq))
  applications := h.applications.of_bytesAt (Tree.here_write hwrite) fun q hq =>
    Tree.bytesAt_write_ne hwrite (by
      rw [h.resolve, h.resolve]
      exact happlications q (h.applicationsPath ▸ hq))

/-- The two collections are in different files. -/
lemma resolve_ne (huniform : start.store.IsUniform) (h : start.HasIssued draws s) {p q : Path}
    (hp : s.store.vacancies.path? = some p) (hq : s.store.applications.path? = some q) :
    s.files.resolve p ≠ s.files.resolve q :=
  huniform.resolve_ne (h.vacanciesPath ▸ hp) (h.applicationsPath ▸ hq) s.files

variable {d : Draw}

/-- A vacancy is added under the id that was drawn last. -/
lemma vacancy (huniform : start.store.IsUniform) (h : start.HasIssued draws s)
    {v : Vacancy} {vacancies : Collection Vacancy} (hword : d.word = "vac") (hid : v.id = d.id)
    (hinsert : s.store.vacancies.insert s.files v = .ok (vacancies, files))
    (hgives : start.ids.Gives (draws ++ [d]) s'.ids)
    (hstore : s'.store = { s.store with vacancies }) (hfiles : s'.files = files) :
    start.HasIssued (draws ++ [d]) s' := by
  obtain ⟨word, number⟩ := d
  obtain rfl : word = "vac" := hword
  subst hfiles
  have hhere : s'.files.here = s.files.here := Collection.here_insert hinsert
  exact
    { ids := hgives
      here := hhere.trans h.here
      vacanciesPath := by
        rw [hstore, ← h.vacanciesPath]
        exact Collection.path?_of_insert hinsert
      applicationsPath := by rw [hstore, ← h.applicationsPath]
      vacancies := by
        rw [hstore, Draw.idsFor_append, Draw.idsFor_self, ← hid]
        exact h.vacancies.insert hinsert
      -- the applications are in another place, which the insertion does not reach
      applications := by
        rw [hstore, Draw.idsFor_append]
        refine (h.applications.of_bytesAt hhere fun q hq => ?_).mono (List.sublist_append_left _ _)
        exact (Collection.bytesAt_insert_ne hinsert fun p hp =>
          (h.resolve_ne huniform hp hq).symm).2 }

/-- An application is added under the id that was drawn last, and may be recorded. -/
lemma application (huniform : start.store.IsUniform) (h : start.HasIssued draws s)
    {a : Application} {applications : Collection Application} {trail : AuditTrail} {r : AuditRecord}
    (hword : d.word = "app") (hid : a.id = d.id)
    (hinsert : s.store.applications.insert s.files a = .ok (applications, files))
    (hgives : start.ids.Gives (draws ++ [d]) s'.ids)
    (hstore : s'.store = { s.store with applications })
    (hfiles : s'.files = (trail.append files r).2.1) : start.HasIssued (draws ++ [d]) s' := by
  obtain ⟨word, number⟩ := d
  obtain rfl : word = "app" := hword
  have hhere : files.here = s.files.here := Collection.here_insert hinsert
  -- the insertion first: the trail writes after it, and brings no record into a collection
  have hadded : start.HasIssued (draws ++ [⟨"app", number⟩])
      { s' with files, store := { s.store with applications } } :=
    { ids := hgives
      here := hhere.trans h.here
      vacanciesPath := h.vacanciesPath
      applicationsPath := (Collection.path?_of_insert hinsert).trans h.applicationsPath
      vacancies := by
        rw [Draw.idsFor_append]
        refine (h.vacancies.of_bytesAt hhere fun p hp => ?_).mono (List.sublist_append_left _ _)
        exact (Collection.bytesAt_insert_ne hinsert fun q hq => h.resolve_ne huniform hp hq).2
      applications := by
        rw [Draw.idsFor_append, Draw.idsFor_self, ← hid]
        exact h.applications.insert hinsert }
  have hrecorded := hadded.meddle (Tree.IsMeddled.append trail files r)
  rw [← hfiles, ← hstore] at hrecorded
  exact hrecorded

end Session.HasIssued

/-! ## Ids that are handed out -/

namespace Draw

variable {draws more : List Draw} {word : String} {id : Text}
  {vacancies vacancies' applications applications' : List Text}

/-- Ids of vacancies and of applications that are handed out were drawn, in this order. -/
structure AreGiven (vacancies applications : List Text) (draws : List Draw) : Prop where
  vacancies : vacancies.Sublist (idsFor "vac" draws)
  applications : applications.Sublist (idsFor "app" draws)

lemma AreGiven.nil (draws : List Draw) : AreGiven [] [] draws :=
  ⟨List.nil_sublist _, List.nil_sublist _⟩

lemma AreGiven.append (h : AreGiven vacancies applications draws)
    (h' : AreGiven vacancies' applications' more) :
    AreGiven (vacancies ++ vacancies') (applications ++ applications') (draws ++ more) where
  vacancies := idsFor_append "vac" draws more ▸ h.vacancies.append h'.vacancies
  applications := idsFor_append "app" draws more ▸ h.applications.append h'.applications

/-- An id was drawn, and nothing else was. -/
def IsDrawn (word : String) (id : Text) (draws : List Draw) : Prop :=
  ∃ d : Draw, d.word = word ∧ id = d.id ∧ draws = [d]

lemma IsDrawn.vacancy (h : IsDrawn "vac" id draws) : AreGiven [id] [] draws := by
  obtain ⟨⟨word, number⟩, rfl, rfl, rfl⟩ := h
  exact ⟨(idsFor_self "vac" number).symm ▸ List.Sublist.refl _, List.nil_sublist _⟩

lemma IsDrawn.application (h : IsDrawn "app" id draws) : AreGiven [] [id] draws := by
  obtain ⟨⟨word, number⟩, rfl, rfl, rfl⟩ := h
  exact ⟨List.nil_sublist _, (idsFor_self "app" number).symm ▸ List.Sublist.refl _⟩

end Draw

/-! ## Actions -/

/-- The fault of a record whose id is taken. -/
def Fault.IsDuplicate : Fault → Prop
  | .store fault => fault.IsDuplicate
  | _ => False

namespace Action

variable {α β : Type} {start : Session} {P : α → List Draw → Prop} {Q : β → List Draw → Prop}
  {x : Action α} {f : α → Action β}

/-- An action that draws some more ids, of which the records that it adds have theirs.  What is said
of a result and of the draws made for it holds; and an id is taken only if a number was drawn
twice. -/
def Issues (start : Session) (P : α → List Draw → Prop) (x : Action α) : Prop :=
  ∀ draws s, start.HasIssued draws s → ∃ more, start.HasIssued (draws ++ more) (exec x s).2
    ∧ (∀ a, (exec x s).1 = .ok a → P a more)
    ∧ ∀ fault, (exec x s).1 = .error fault → fault.IsDuplicate → ¬Draw.AreDistinct (draws ++ more)

/-- The draws of a sequence are those of its parts. -/
theorem Issues.bind (hx : x.Issues start P)
    (hf : ∀ a more, P a more → (f a).Issues start fun b more' => Q b (more ++ more')) :
    (x >>= f).Issues start Q := by
  intro draws s hs
  obtain ⟨more, hs', hok, herror⟩ := hx draws s hs
  rw [exec_bind]
  generalize exec x s = outcome at hs' hok herror ⊢
  obtain ⟨fault | a, s'⟩ := outcome
  · refine ⟨more, hs', fun b h => ?_, fun fault' h => ?_⟩
    · cases h
    · cases h
      exact herror fault rfl
  · obtain ⟨more', hs'', hok', herror'⟩ := hf a more (hok a rfl) (draws ++ more) s' hs'
    rw [List.append_assoc] at hs'' herror'
    exact ⟨more ++ more', hs'', hok', herror'⟩

/-- An action that looks at things at most.  It never says that an id is taken. -/
structure OnlyLooks (x : Action α) : Prop where
  untouched : ∀ s, Pipeline.Untouched s (exec x s).2
  ids : ∀ s, (exec x s).2.ids = s.ids
  fault : ∀ s fault, (exec x s).1 = .error fault → ¬fault.IsDuplicate

lemma OnlyLooks.issues (hx : x.OnlyLooks) (hP : ∀ a, P a []) : x.Issues start P := by
  intro draws s hs
  refine ⟨[], hs.draw (hx.untouched s) ?_, fun a _ => hP a, fun fault h hfault => ?_⟩
  · rw [List.append_nil, hx.ids]
    exact hs.ids
  · exact absurd hfault (hx.fault s fault h)

/-- To look at something before makes no difference. -/
lemma OnlyLooks.bind_issues (hx : x.OnlyLooks) (hf : ∀ a, (f a).Issues start Q) :
    (x >>= f).Issues start Q :=
  (hx.issues (P := fun _ more => more = []) fun _ => rfl).bind fun a more hmore => by
    rw [hmore]
    exact hf a

lemma OnlyLooks.bind (hx : x.OnlyLooks) (hf : ∀ a, (f a).OnlyLooks) : (x >>= f).OnlyLooks where
  untouched := Pipeline.IsQuiet.bind hx.untouched fun a => (hf a).untouched
  ids s := by
    have h := hx.ids s
    rw [exec_bind]
    generalize exec x s = outcome at h ⊢
    obtain ⟨_ | a, s'⟩ := outcome
    · exact h
    · exact ((hf a).ids s').trans h
  fault s fault h := by
    have hfault := hx.fault s
    rw [exec_bind] at h
    generalize exec x s = outcome at h hfault
    obtain ⟨fault' | a, s'⟩ := outcome
    · cases h
      exact hfault fault rfl
    · exact (hf a).fault s' fault h

/-! ### Steps that only look -/

lemma onlyLooks_lift {outcome : Except Fault α}
    (h : ∀ fault, outcome = .error fault → ¬fault.IsDuplicate) :
    OnlyLooks (ExceptT.mk (pure outcome) : Action α) :=
  ⟨fun _ => ⟨rfl, rfl, rfl⟩, fun _ => rfl, fun _ => h⟩

lemma onlyLooks_pure (a : α) : (pure a : Action α).OnlyLooks :=
  ⟨fun _ => ⟨rfl, rfl, rfl⟩, fun _ => rfl, fun _ _ heq => by cases heq⟩

lemma onlyLooks_throw {fault : Fault} (h : ¬fault.IsDuplicate) :
    (throw fault : Action α).OnlyLooks :=
  ⟨fun _ => ⟨rfl, rfl, rfl⟩, fun _ => rfl, fun _ _ heq => by
    cases heq
    exact h⟩

lemma onlyLooks_get : (get : Action Session).OnlyLooks :=
  ⟨fun _ => ⟨rfl, rfl, rfl⟩, fun _ => rfl, fun _ _ h => by cases h⟩

lemma onlyLooks_report (events : List Event) : (Session.report events).OnlyLooks :=
  ⟨fun _ => ⟨rfl, rfl, rfl⟩, fun _ => rfl, fun _ _ h => by cases h⟩

lemma onlyLooks_askExtractor (extractor : Extractor) (documents : Documents) :
    (Session.askExtractor extractor documents).OnlyLooks :=
  ⟨fun _ => ⟨rfl, rfl, rfl⟩, fun _ => rfl, fun _ _ h => by cases h⟩

lemma onlyLooks_ofStore {outcome : Except StoreFault α}
    (h : ∀ fault, outcome = .error fault → ¬fault.IsDuplicate) :
    (Session.ofStore outcome).OnlyLooks := by
  cases outcome with
  | ok a => exact onlyLooks_pure a
  | error fault => exact onlyLooks_throw (h fault rfl)

lemma onlyLooks_readFile (p : Path) : (Session.readFile p).OnlyLooks := by
  refine onlyLooks_get.bind fun s => ?_
  cases s.files.read p with
  | ok content => exact onlyLooks_pure content
  | error o => exact onlyLooks_throw id

/-! ### Steps that draw or write -/

lemma issues_pure {a : α} (h : P a []) : (pure a : Action α).Issues start P := by
  intro draws s hs
  rw [exec_pure]
  refine ⟨[], ?_, fun b hb => ?_, fun fault hfault => ?_⟩
  · rw [List.append_nil]
    exact hs
  · cases hb
    exact h
  · cases hfault

/-- What is made of a result draws nothing. -/
lemma Issues.bind_pure {g : α → β} (hx : x.Issues start P)
    (h : ∀ a more, P a more → Q (g a) more) : (x >>= fun a => pure (g a)).Issues start Q :=
  hx.bind fun a more ha => issues_pure (by
    rw [List.append_nil]
    exact h a more ha)

lemma issues_throw {fault : Fault} (h : ¬fault.IsDuplicate) :
    (throw fault : Action α).Issues start P := by
  intro draws s hs
  rw [exec_throw]
  refine ⟨[], ?_, fun a ha => ?_, fun fault' heq hfault => ?_⟩
  · rw [List.append_nil]
    exact hs
  · cases ha
  · cases heq
    exact absurd hfault h

lemma issues_freshId (word : String) :
    (Session.freshId word).Issues start fun id : String => Draw.IsDrawn word id := by
  intro draws s hs
  refine ⟨[⟨word, s.ids.draw.1⟩], hs.draw ⟨rfl, rfl, rfl⟩ (hs.ids.snoc word), fun id hid => ?_,
    fun fault h => ?_⟩
  · rw [Session.exec_freshId] at hid
    obtain rfl := Except.ok.inj hid
    exact ⟨⟨word, s.ids.draw.1⟩, rfl, IdSource.fresh_fst s.ids word, rfl⟩
  · cases h

/-- A change of the files draws nothing, if it does not matter to the store. -/
lemma issues_changeFiles {change : Tree → Except Obstructed Tree}
    (hkept : ∀ draws s files, start.HasIssued draws s → change s.files = .ok files →
      start.HasIssued draws { s with files }) :
    (Session.changeFiles change).Issues start fun _ more => more = [] := by
  intro draws s hs
  rw [Session.exec_changeFiles]
  refine ⟨[], ?_⟩
  rw [List.append_nil]
  cases h : change s.files with
  | error o =>
    refine ⟨hs, fun _ _ => rfl, fun fault heq hfault => ?_⟩
    cases heq
    cases hfault
  | ok files =>
    refine ⟨hkept draws s files hs h, fun _ _ => rfl, fun fault heq => ?_⟩
    cases heq

lemma issues_meddle {change : Tree → Except Obstructed Tree}
    (hchange : ∀ t t', change t = .ok t' → t.IsMeddled t') :
    (Session.changeFiles change).Issues start fun _ more => more = [] :=
  issues_changeFiles fun _ _ _ hs h => hs.meddle (hchange _ _ h)

end Action

namespace Pipeline

open Shortlist.Action

variable {setup : Setup} {now : Instant} {start : Session}

/-! ## Vacancies -/

lemma onlyLooks_ofCheck {α : Type} (subject : Subject) (check : Check α) :
    (ofCheck subject check).OnlyLooks := by
  cases check with
  | accepted a => exact onlyLooks_pure a
  | refused issues => exact onlyLooks_throw id
  | broken fault => exact onlyLooks_throw id

/-- A registration draws an id and adds a vacancy under it. -/
lemma exec_registerVacancy (now : Instant) (draft : VacancyDraft) (s : Session) :
    ∃ v : Vacancy, v.id = Draw.id ⟨"vac", s.ids.draw.1⟩
      ∧ exec (registerVacancy now draft) s = match s.store.vacancies.insert s.files v with
        | .ok (vacancies, files) =>
          (.ok v, { s with
            ids := (s.ids.fresh "vac").2, files, store := { s.store with vacancies },
            events := s.events ++ [.vacancyCreated v.id v.requirements.length] })
        | .error fault => (.error (.store fault), { s with ids := (s.ids.fresh "vac").2 }) := by
  refine ⟨draft.register (s.ids.fresh "vac").1 (timeText now), IdSource.fresh_fst s.ids "vac", ?_⟩
  generalize hid : s.ids.fresh "vac" = drawn
  rw [registerVacancy, exec_bind_ok (Session.exec_freshId s "vac"), exec_bind,
    Session.exec_insertVacancy, hid]
  dsimp only
  cases s.store.vacancies.insert s.files (draft.register drawn.1 (timeText now)) <;> rfl

/-- A vacancy has the id that was drawn for it. -/
lemma issues_registerVacancy (huniform : start.store.IsUniform) (draft : VacancyDraft) :
    (registerVacancy now draft).Issues start fun v => Draw.AreGiven [v.id] [] := by
  intro draws s hs
  obtain ⟨v, hid, hexec⟩ := exec_registerVacancy now draft s
  have hgives := hs.ids.snoc "vac"
  refine ⟨[⟨"vac", s.ids.draw.1⟩], ?_⟩
  rw [hexec]
  cases hinsert : s.store.vacancies.insert s.files v with
  | error fault =>
    refine ⟨hs.draw ⟨rfl, rfl, rfl⟩ hgives, fun w h => ?_, fun fault' h hfault => ?_⟩
    · cases h
    · cases h
      exact hs.vacancies.not_areDistinct hid hinsert hfault
  | ok inserted =>
    refine ⟨hs.vacancy huniform rfl hid hinsert hgives rfl rfl, fun w h => ?_, fun fault h => ?_⟩
    · cases h
      exact Draw.IsDrawn.vacancy ⟨_, rfl, hid, rfl⟩
    · cases h

lemma issues_createVacancy (huniform : start.store.IsUniform) (document : Value) :
    (createVacancy now document).Issues start fun v => Draw.AreGiven [v.id] [] :=
  (onlyLooks_ofCheck _ _).bind_issues fun draft => issues_registerVacancy huniform draft

/-! ## Submissions -/

lemma onlyLooks_openSubmission (vacancyId : Text) (applicantId : Option Text)
    (documents : Documents) : (openSubmission vacancyId applicantId documents).OnlyLooks := by
  refine onlyLooks_get.bind fun s => ?_
  refine (onlyLooks_ofStore fun _ => Collection.not_isDuplicate_of_get?).bind fun found => ?_
  cases found with
  | some v => exact onlyLooks_pure _
  | none => exact (onlyLooks_report _).bind fun _ => onlyLooks_throw id

/-- A ruling draws the id of the application. -/
lemma issues_draw (hdrawn : setup.applicationIds = .drawn) (submission : OpenSubmission)
    (facts : Facts) (decision : Decision) :
    (draw setup now submission facts decision).Issues start fun ruling =>
      Draw.IsDrawn "app" ruling.application.id := by
  have hfeedback : ∀ fault, decision.feedback = .error fault → ¬fault.IsDuplicate := by
    intro fault h
    rw [Decision.feedback_eq_error h]
    exact id
  rw [draw, hdrawn]
  refine (issues_freshId "app").bind fun id more hid => ?_
  refine (onlyLooks_lift hfeedback).bind_issues fun feedback => issues_pure ?_
  rw [List.append_nil]
  exact hid

lemma issues_judge (hdrawn : setup.applicationIds = .drawn) (submission : OpenSubmission)
    (extracted : List Event × Except ExtractionFault Facts) :
    (judge setup now submission extracted).Issues start fun ruling =>
      Draw.IsDrawn "app" ruling.application.id := by
  refine (onlyLooks_report _).bind_issues fun _ => ?_
  cases extracted.2 with
  | error fault => exact issues_throw id
  | ok facts =>
    dsimp only
    cases Decision.ofFacts setup now submission.vacancy.requirements facts with
    | error fault => exact issues_throw id
    | ok decision => exact issues_draw hdrawn submission facts decision

lemma issues_rule (hdrawn : setup.applicationIds = .drawn) (now : Instant) (vacancyId : Text)
    (applicantId : Option Text) (documents : Documents) :
    (rule setup now vacancyId applicantId documents).Issues start fun ruling =>
      Draw.IsDrawn "app" ruling.application.id :=
  (onlyLooks_openSubmission vacancyId applicantId documents).bind_issues fun submission =>
    (onlyLooks_askExtractor setup.extractor documents).bind_issues fun extracted =>
      issues_judge hdrawn submission extracted

/-- An application has the id that was drawn for it. -/
lemma issues_createApplication (hdrawn : setup.applicationIds = .drawn)
    (huniform : start.store.IsUniform) (vacancyId : Text) (applicantId : Option Text)
    (documents : Documents) :
    (createApplication setup now vacancyId applicantId documents).Issues start fun a =>
      Draw.AreGiven [] [a.id] := by
  intro draws s hs
  have hquiet := isQuiet_rule setup now vacancyId applicantId documents s
  obtain ⟨more, hs', hruled, herror⟩ :=
    issues_rule hdrawn now vacancyId applicantId documents draws s hs
  rw [createApplication_eq, exec_bind]
  generalize exec (rule setup now vacancyId applicantId documents) s = outcome
    at hquiet hs' hruled herror ⊢
  obtain ⟨fault | ruling, s'⟩ := outcome
  · refine ⟨more, hs', fun a h => ?_, fun fault' h => ?_⟩
    · cases h
    · cases h
      exact herror fault rfl
  -- the store has not changed since the id was drawn, so no application has this id yet
  obtain ⟨d, hword, hid, rfl⟩ := hruled ruling rfl
  refine ⟨[d], ?_⟩
  dsimp only
  cases hinsert : s'.store.applications.insert s'.files ruling.application with
  | error fault =>
    rw [exec_settle_of_error hinsert]
    refine ⟨hs', fun a h => ?_, fun fault' h hfault => ?_⟩
    · cases h
    · cases h
      rw [hquiet.store, hquiet.files] at hinsert
      exact hs.applications.not_areDistinct hid hinsert hfault
  | ok inserted =>
    rw [exec_settle_eq ruling hinsert]
    rw [hquiet.store, hquiet.files] at hinsert
    have hstore : (s'.settled ruling inserted.1 inserted.2).store
        = { s.store with applications := inserted.1 } := by
      rw [Session.settled, ← hquiet.store]
    refine ⟨hs.application huniform hword hid hinsert hs'.ids hstore rfl, fun a h => ?_,
      fun fault h => ?_⟩
    · cases AuditTrail.eq_of_goOn_eq_ok h
      exact Draw.IsDrawn.application ⟨d, hword, hid, rfl⟩
    · obtain ⟨raised, rfl, -⟩ := escapes_of_goOn h
      exact False.elim

lemma issues_submit (hdrawn : setup.applicationIds = .drawn) (huniform : start.store.IsUniform)
    (payload : Payload) :
    (payload.submit setup now).Issues start fun a => Draw.AreGiven [] [a.id] := by
  rw [payload.submit_eq]
  exact (onlyLooks_ofCheck _ _).bind_issues fun submission =>
    issues_createApplication hdrawn huniform _ _ _

/-! ## Batches -/

lemma onlyLooks_checkReducible (a : Application) : (checkReducible a).OnlyLooks := by
  rw [checkReducible]
  cases Record.dump? a with
  | ok v => exact onlyLooks_pure ()
  | error fault => exact onlyLooks_throw id

/-- The results of a batch have the ids that were drawn for them, in their order. -/
lemma issues_decideEntries (hdrawn : setup.applicationIds = .drawn)
    (huniform : start.store.IsUniform) (vacancyId : Text) (number : Nat)
    (entries : List BatchEntry) :
    (decideEntries setup now vacancyId number entries).Issues start fun decided =>
      Draw.AreGiven [] (decided.1.map (·.id)) := by
  induction entries generalizing number with
  | nil => exact issues_pure (.nil [])
  | cons entry rest ih =>
    rw [decideEntries]
    cases entry.vacancyId.filter (· ≠ vacancyId) with
    | some other =>
      exact (onlyLooks_report _).bind_issues fun _ =>
        (ih (number + 1)).bind_pure fun decided more h => h
    | none =>
      refine (issues_createApplication hdrawn huniform _ _ _).bind fun a more ha => ?_
      refine (onlyLooks_checkReducible a).bind_issues fun _ => ?_
      exact (ih (number + 1)).bind_pure fun decided more' h => ha.append h

lemma issues_registerFile (huniform : start.store.IsUniform) (p : Path) :
    (registerFile now p).Issues start fun v => Draw.AreGiven [v.id] [] := by
  refine (onlyLooks_readFile p).bind_issues fun content => ?_
  cases readVacancyFile content with
  | ok document => exact issues_createVacancy huniform document
  | error fault => cases fault <;> exact issues_throw id

lemma onlyLooks_loadApplications (p : Path) : (loadApplications p).OnlyLooks := by
  refine (onlyLooks_readFile p).bind fun content => ?_
  cases ApplicationsFile.read content with
  | error fault => exact onlyLooks_throw id
  | ok file =>
    dsimp only
    split
    · exact (onlyLooks_report _).bind fun _ => onlyLooks_pure _
    · exact onlyLooks_pure _

/-- A report begins with a line on which a mapping is opened. -/
lemma exists_reportBytes {report : BatchReport} {text : Text} {bytes : Text.Bytes}
    (htext : Json.document .page report.toValue = .ok text) (hbytes : text.encode = .ok bytes) :
    ∃ cs, bytes = RecordFile.reportBytes cs := by
  obtain ⟨_, -, htext⟩ := Except.bind_eq_ok.1 htext
  cases htext
  obtain ⟨-, rfl⟩ := Text.encode_eq_ok.1 hbytes
  obtain ⟨cs, hcs⟩ : ∃ cs, CodePoint.chars (Json.write .page 0 report.toValue)
      = '\x7b' :: '\n' :: cs := Json.exists_chars_page (List.cons_ne_nil _ _)
  exact ⟨cs, congrArg Text.encodeUtf8 hcs⟩

/-- The output of a batch may go anywhere, even into the store. -/
lemma issues_writeOutput (p : Path) (report : BatchReport) :
    (writeOutput p report.toValue).Issues start fun _ more => more = [] := by
  refine (issues_meddle fun _ _ => Tree.IsMeddled.of_makeDirectories).bind fun _ more hmore => ?_
  subst hmore
  cases htext : Json.document .page report.toValue with
  | error fault => exact issues_throw id
  | ok text =>
    refine (issues_meddle fun _ _ h => .of_write h fun _ => .emptied).bind fun _ more hmore => ?_
    subst hmore
    cases hbytes : text.encode with
    | error fault => exact issues_throw id
    | ok bytes =>
      obtain ⟨cs, rfl⟩ := exists_reportBytes htext hbytes
      exact issues_meddle fun _ _ h => .of_write h fun _ => .report cs

/-- A batch hands out the id of its vacancy and those of its results. -/
lemma issues_runBatch (hdrawn : setup.applicationIds = .drawn) (huniform : start.store.IsUniform)
    (paths : BatchPaths) :
    (runBatch setup now paths).Issues start fun report =>
      Draw.AreGiven [report.vacancyId] (report.results.map (·.id)) := by
  refine (issues_registerFile huniform _).bind fun v more hv => ?_
  refine (onlyLooks_loadApplications _).bind_issues fun file => ?_
  refine (issues_decideEntries hdrawn huniform _ _ _).bind fun decided more' hdecided => ?_
  refine (issues_writeOutput _ _).bind_pure fun _ more'' hmore => ?_
  rw [hmore, List.append_nil]
  exact hv.append hdecided

/-! ## Looking into the store -/

lemma onlyLooks_listVacancies : listVacancies.OnlyLooks :=
  onlyLooks_get.bind fun _ =>
    onlyLooks_ofStore fun _ => Collection.not_isDuplicate_of_toList

lemma onlyLooks_getVacancy (vacancyId : Text) : (getVacancy vacancyId).OnlyLooks := by
  refine onlyLooks_get.bind fun s => ?_
  refine (onlyLooks_ofStore fun _ => Collection.not_isDuplicate_of_get?).bind fun found => ?_
  cases found with
  | some v => exact onlyLooks_pure v
  | none => exact onlyLooks_throw id

lemma onlyLooks_listApplications (vacancyId : Option Text) :
    (listApplications vacancyId).OnlyLooks := by
  refine onlyLooks_get.bind fun s => ?_
  cases vacancyId with
  | none => exact onlyLooks_ofStore fun _ => Collection.not_isDuplicate_of_toList
  | some id => exact onlyLooks_ofStore fun _ => Collection.not_isDuplicate_of_filter

end Pipeline

end Shortlist
