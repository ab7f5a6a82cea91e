import Shortlist.Proofs.Files.Content
import Shortlist.Proofs.Pipeline.Backends
import Shortlist.Proofs.Pipeline.Congruence
import Shortlist.Proofs.Pipeline.Relevance
import Shortlist.Proofs.Screening.Reduction
import Shortlist.Proofs.Store.Persistence

/-!
# Decisions that can be justified from the files

A directory keeps the applications with their facts and the vacancies with their requirements, so
what has been decided can be looked into later: the requirements of the vacancy that is read back
are evaluated by the facts of the application that is read back, at the time of the decision.

The facts that are read back are reduced.  The evaluation comes back in any case, and its reasons
are those of the decision exactly if no verdict of an equality rule is lost by the reduction; then
it says what the application says (`Errand.run_justified`).  A degree or institution that is NaN is
text enough for a rule as long as it is in memory, but it is read back as null.

What is kept along a run is that each of the two files mirrors a collection, and that every
application in the one is backed by a vacancy in the other and by a time of the run
(`Tree.Archives`).  Of the steps that errands are made of only a ruling that is settled has
something to show for this, and it rests on the vacancy that was looked up for it.  That the facts
can be said by a JSON text comes from the submissions, which were read from such texts, and is
needed because nothing else is written to a file as it is.  The trail and the outputs have to be
kept elsewhere: a line of theirs among the records would leave nothing to read back.
-/

namespace Shortlist

/-! ## Decisions that are looked into -/

namespace IsDecision

variable {setup : Setup} {now : Instant} {v : Vacancy} {a : Application}

/-- The facts of a decision are reduced in its settled form. -/
lemma facts_settled (h : IsDecision setup now v a) : a.settled.facts = a.facts.plain := by
  rw [Application.facts, Application.settled, Documents.settled, h.facts]
  rfl

/-- The settled form of a decision is a decision by the reduced facts, if the verdicts on them are
the same. -/
lemma settled (h : IsDecision setup now v a)
    (hpersists : ∀ r ∈ v.requirements, r.Persists now a.facts) :
    IsDecision setup now v a.settled := by
  -- a decision looks at the facts through verdicts only, and these are the same
  have hverdict : ∀ r ∈ v.requirements, r.verdict now a.settled.facts = r.verdict now a.facts := by
    rw [h.facts_settled]
    exact hpersists
  have hreasons : Rule.unmetReasons now a.settled.facts v.requirements
      = Rule.unmetReasons now a.facts v.requirements :=
    Rule.unmetReasons_congr hverdict
  exact
    { vacancyId := h.vacancyId
      facts := by
        rw [h.facts_settled, Application.settled, Documents.settled, h.facts]
        rfl
      judged := fun r hr => by
        rw [hverdict r hr]
        exact h.judged r hr
      accepted_iff_met := h.accepted_iff_met.trans
        (forall₂_congr fun r hr => by rw [hverdict r hr])
      accepted_iff_silent := h.accepted_iff_silent
      feedback := fun hrejected => by
        rw [hreasons]
        exact h.feedback hrejected
      createdAt := h.createdAt }

/-- What an evaluation by the facts of a decision comes to: it is satisfied if the candidate was
accepted, and its reasons make the feedback. -/
lemma satisfied_iff (h : IsDecision setup now v a) {e : Evaluation}
    (heval : setup.panel.evaluate now a.facts v.requirements = .ok e) :
    (e.satisfied = true ↔ a.status = .accepted)
      ∧ Decision.feedback ⟨e, setup.separator⟩ = .ok a.feedback := by
  have hmet : e.satisfied = true ↔ a.status = .accepted :=
    (Evaluation.satisfied_iff heval).trans h.accepted_iff_met.symm
  refine ⟨hmet, ?_⟩
  rw [Decision.feedback]
  by_cases haccepted : a.status = .accepted
  · rw [if_pos (hmet.2 haccepted), h.accepted_iff_silent.1 haccepted]
  · obtain ⟨separator, hseparator, hfeedback⟩ := h.feedback (Status.eq_rejected_of_ne haccepted)
    rw [if_neg (mt hmet.1 haccepted), hseparator, hfeedback, Evaluation.reasons_eq heval]

/-- What could be decided can be evaluated by the reduced facts. -/
lemma exists_evaluate_settled (h : IsDecision setup now v a) (hdecoded : a.facts.IsDecoded) :
    ∃ e, setup.panel.evaluate now a.settled.facts v.requirements = .ok e := by
  rw [Panel.exists_evaluate, h.facts_settled]
  intro r hr
  exact Rule.exists_accepts.1 (Rule.exists_verdict_plain hdecoded (h.judged r hr))

end IsDecision

/-! ## Sessions over a directory -/

/-- Facts that are extracted from documents which a JSON text can say, it can say, too. -/
def Extractor.KeepsDecoded (extractor : Extractor) : Prop :=
  ∀ asked documents facts, documents.HasDecodedFacts →
    (extractor.run asked documents).2 = .ok facts → facts.IsDecoded

lemma Extractor.keepsDecoded_standard {defaults : Facts} (h : defaults.IsDecoded) :
    (Extractor.standard defaults).KeepsDecoded := by
  intro asked documents facts hdocuments hfacts
  rw [run_standard] at hfacts
  cases hfacts
  cases hknown : documents.facts with
  | none => exact h
  | some known => exact hdocuments known hknown

/-- The application was decided on at one of the times, by the requirements of one of the vacancies
and by facts that a JSON text can say. -/
def Application.IsBacked (setup : Setup) (times : List Instant) (vacancies : List Vacancy)
    (a : Application) : Prop :=
  a.facts.IsDecoded ∧ ∃ v ∈ vacancies, ∃ now ∈ times, IsDecision setup now v a

lemma Application.IsBacked.mono {setup : Setup} {times : List Instant}
    {vacancies vacancies' : List Vacancy} {a : Application} (h : a.IsBacked setup times vacancies)
    (hsub : vacancies ⊆ vacancies') : a.IsBacked setup times vacancies' := by
  obtain ⟨hdecoded, v, hv, hdecision⟩ := h
  exact ⟨hdecoded, v, hsub hv, hdecision⟩

/-- The two files of a directory mirror collections in which every application is backed. -/
def Tree.Archives (setup : Setup) (times : List Instant) (directory : Path) (files : Tree) : Prop :=
  ∃ (vacancies : MemoryCollection Vacancy) (applications : MemoryCollection Application),
    Mirrors vacancies files (directory.child Store.vacanciesName)
      ∧ Mirrors applications files (directory.child Store.applicationsName)
      ∧ ∀ a ∈ applications.records, a.IsBacked setup times vacancies.records

/-- A session over a directory whose files archive what has been decided since the start. -/
structure IsArchived (setup : Setup) (times : List Instant) (directory : Path) (start s : Session) :
    Prop where
  store : s.store = .inDirectory directory
  here : s.files.here = start.files.here
  audit : ∀ p, s.audit = .file p → start.audit = .file p
  archives : s.files.Archives setup times directory

namespace IsArchived

variable {setup : Setup} {times : List Instant} {directory p q : Path} {start s : Session}
  {now : Instant} {files : Tree}

/-- The outputs leave the store alone. -/
def scope (directory : Path) (start : Session) : Scope where
  documents := Documents.HasDecodedFacts
  reads _ := True
  writes q := ∀ name ∈ [Store.vacanciesName, Store.applicationsName],
    start.files.IsOff q (directory.child name)
  documents_of_hasDecodedFacts _ h := h

/-- The files of a directory are at two places. -/
lemma resolve_ne (directory : Path) (files : Tree) :
    files.resolve (directory.child Store.vacanciesName)
      ≠ files.resolve (directory.child Store.applicationsName) :=
  (Store.IsUniform.directory directory).resolve_ne rfl rfl files

lemma quiet {s' : Session} (h : IsArchived setup times directory start s)
    (huntouched : Pipeline.Untouched s s') : IsArchived setup times directory start s' where
  store := huntouched.store.trans h.store
  here := by rw [huntouched.files, h.here]
  audit p hp := h.audit p (huntouched.audit ▸ hp)
  archives := by
    rw [huntouched.files]
    exact h.archives

lemma vacancy (h : IsArchived setup times directory start s) {v : Vacancy}
    {vacancies : Collection Vacancy}
    (hinsert : s.store.vacancies.insert s.files v = .ok (vacancies, files)) :
    IsArchived setup times directory start
      { s with files, store := { s.store with vacancies } } := by
  obtain ⟨held, applications, hvacancies, happlications, hbacked⟩ := h.archives
  rw [h.store] at hinsert
  obtain ⟨rfl, held', content, hrecords, hwrite, hmirrors⟩ :=
    hvacancies.of_insert v.isDecoded_toValue hinsert
  refine ⟨by rw [h.store]; rfl, (Tree.sameOff_write hwrite).here.trans h.here, h.audit, held',
    applications, hmirrors,
    happlications.write_ne hwrite (resolve_ne directory s.files).symm, fun a ha => ?_⟩
  exact (hbacked a ha).mono (hrecords ▸ List.subset_append_left _ _)

/-- A ruling is backed by the vacancy that was looked up. -/
lemma isBacked (h : IsArchived setup times directory start s) (hnow : now ∈ times)
    (hextractor : setup.extractor.KeepsDecoded) {ruling : Ruling}
    {vacancies : MemoryCollection Vacancy}
    (hvacancies : Mirrors vacancies s.files (directory.child Store.vacanciesName))
    (hruled : s.HasRuled setup now (scope directory start) ruling) :
    ruling.application.IsBacked setup times vacancies.records := by
  obtain ⟨s₀, vacancyId, applicantId, documents, v, hdocuments, huntouched, hruling⟩ := hruled
  have hdecision := hruling.isDecision
  have hfacts : ruling.application.facts = ruling.facts := by
    rw [Application.facts, hruling.documents]
    rfl
  have hget := hruling.vacancy
  rw [← huntouched.store, ← huntouched.files, h.store] at hget
  rw [Store.inDirectory, hvacancies.get?_eq] at hget
  obtain ⟨w, hw, rfl⟩ := Option.map_eq_some_iff.1 (Except.ok.inj hget)
  refine ⟨hfacts ▸ hextractor _ _ _ hdocuments hruling.extracted, w, ?_, now, hnow, hdecision⟩
  rw [hvacancies.sound.get?_eq] at hw
  exact List.mem_of_find?_eq_some hw

/-- The trail writes to neither file of the directory. -/
lemma of_append (htrail : ∀ name ∈ [Store.vacanciesName, Store.applicationsName],
      start.audit.Spares start.files (directory.child name))
    {audit : AuditTrail} (haudit : ∀ p, audit = .file p → start.audit = .file p)
    (hhere : files.here = start.files.here) (h : files.Archives setup times directory)
    (r : AuditRecord) :
    (audit.append files r).2.1.here = start.files.here
      ∧ (audit.append files r).2.1.Archives setup times directory := by
  let P (t : Tree) : Prop := t.here = start.files.here ∧ t.Archives setup times directory
  refine AuditTrail.append_preserves (P := P) ?_ ⟨hhere, h⟩ r
  rintro p hp t content t' ⟨hhere, vacancies, applications, hvacancies, happlications, hbacked⟩
    hwrite
  have hne : ∀ name ∈ [Store.vacanciesName, Store.applicationsName],
      t.resolve (directory.child name) ≠ t.resolve p := by
    intro name hname
    rw [Tree.resolve_of_here hhere, Tree.resolve_of_here hhere]
    exact htrail name hname p (haudit p hp)
  exact ⟨(Tree.sameOff_write hwrite).here.trans hhere, vacancies, applications,
    hvacancies.write_ne hwrite (hne _ (by simp)),
    happlications.write_ne hwrite (hne _ (by simp)), hbacked⟩

/-- An application that is settled is backed. -/
lemma application (hnow : now ∈ times) (hextractor : setup.extractor.KeepsDecoded)
    (htrail : ∀ name ∈ [Store.vacanciesName, Store.applicationsName],
      start.audit.Spares start.files (directory.child name))
    (h : IsArchived setup times directory start s) {ruling : Ruling}
    {applications : Collection Application}
    (hinsert : s.store.applications.insert s.files ruling.application = .ok (applications, files))
    (hruled : s.HasRuled setup now (scope directory start) ruling) :
    IsArchived setup times directory start (s.settled ruling applications files) := by
  obtain ⟨vacancies, held, hvacancies, happlications, hbacked⟩ := h.archives
  have hruling := h.isBacked hnow hextractor hvacancies hruled
  have hdecoded : ruling.application.documents.HasDecodedFacts := by
    intro facts hfacts
    obtain ⟨hdecoded, -⟩ := hruling
    rwa [Application.facts, hfacts] at hdecoded
  rw [h.store] at hinsert
  obtain ⟨rfl, held', content, hrecords, hwrite, hmirrors⟩ :=
    happlications.of_insert (Application.isDecoded_toValue hdecoded) hinsert
  -- the ruling backs the new application, and the others are backed as before
  have harchives : files.Archives setup times directory := by
    refine ⟨vacancies, held', hvacancies.write_ne hwrite (resolve_ne directory s.files),
      hmirrors, ?_⟩
    intro a ha
    rw [hrecords] at ha
    rcases List.mem_append.1 ha with ha | ha
    · exact hbacked a ha
    · exact List.mem_singleton.1 ha ▸ hruling
  have hhere : files.here = start.files.here := (Tree.sameOff_write hwrite).here.trans h.here
  obtain ⟨hhere', harchives'⟩ := of_append htrail h.audit hhere harchives ruling.record
  exact ⟨by rw [Session.settled, h.store]; rfl, hhere',
    fun p hp => h.audit p (AuditTrail.eq_file_of_append hp), harchives'⟩

lemma output (h : IsArchived setup times directory start s) (hq : (scope directory start).writes q)
    (hoff : Tree.SameOff q s.files files) :
    IsArchived setup times directory start { s with files } := by
  obtain ⟨vacancies, applications, hvacancies, happlications, hbacked⟩ := h.archives
  have hspared : ∀ name ∈ [Store.vacanciesName, Store.applicationsName],
      ¬s.files.IsOn q (s.files.resolve (directory.child name)) := by
    intro name hname hon
    rw [Tree.resolve_of_here h.here] at hon
    exact hq name hname ((Tree.isOn_of_here h.here).1 hon)
  exact ⟨h.store, hoff.here.trans h.here, h.audit, vacancies, applications,
    hvacancies.of_sameOff hoff (hspared _ (by simp)),
    happlications.of_sameOff hoff (hspared _ (by simp)), hbacked⟩

lemma isInvariant (hnow : now ∈ times) (hextractor : setup.extractor.KeepsDecoded)
    (htrail : ∀ name ∈ [Store.vacanciesName, Store.applicationsName],
      start.audit.Spares start.files (directory.child name)) :
    IsInvariant setup now (scope directory start) (IsArchived setup times directory start) where
  quiet _ _ _ huntouched _ _ h := h.quiet huntouched
  vacancy _ _ _ _ hinsert h := h.vacancy hinsert
  application _ _ _ _ hinsert hruled h := h.application hnow hextractor htrail hinsert hruled
  output _ _ _ hq hoff h := h.output hq hoff

/-- A session over a fresh directory archives what has been decided: nothing. -/
lemma of_isFresh (hstore : s.store = .inDirectory directory) (hfresh : IsFresh s.files directory) :
    IsArchived setup times directory s s := by
  obtain ⟨hvacancies, hroom⟩ := hfresh Store.vacanciesName (by simp)
  obtain ⟨happlications, hroom'⟩ := hfresh Store.applicationsName (by simp)
  exact ⟨hstore, rfl, fun _ hp => hp, .empty, .empty, .empty hvacancies hroom,
    .empty happlications hroom', by simp [MemoryCollection.empty]⟩

end IsArchived

/-- A separate trail spares the files of a directory. -/
lemma Session.HasSeparateTrail.spares {s : Session} {directory : Path} (h : s.HasSeparateTrail)
    (hstore : s.store = .inDirectory directory) :
    ∀ name ∈ [Store.vacanciesName, Store.applicationsName],
      s.audit.Spares s.files (directory.child name) := by
  intro name hname
  refine h _ ?_
  rw [hstore]
  simp only [List.mem_cons, List.not_mem_nil, or_false] at hname
  rcases hname with rfl | rfl
  · exact .inl rfl
  · exact .inr rfl

/-- The vacancy of a decision is read back for the settled application. -/
lemma Mirrors.get?_of_isDecision {vacancies : MemoryCollection Vacancy} {files : Tree} {p : Path}
    {setup : Setup} {now : Instant} {v : Vacancy} {a : Application} (h : Mirrors vacancies files p)
    (hv : v ∈ vacancies.records) (hdecision : IsDecision setup now v a) :
    (Collection.file p).get? files a.settled.vacancyId = .ok (some v) := by
  have hid : a.settled.vacancyId = Record.id v := hdecision.vacancyId
  rw [h.get?_eq, hid, h.sound.get?_id hv]
  rfl

/-! ## Runs -/

/-- A submission was read from a JSON text, if that is what the errand is. -/
def Errand.IsRead : Errand → Prop
  | .submit payload => ∃ text, Json.parse text = .ok payload.value
  | _ => True

lemma Errand.isWithin_archive {directory : Path} {start : Session} {errand : Errand}
    (hread : errand.IsRead)
    (houtputs : ∀ q ∈ errand.outputs, (IsArchived.scope directory start).writes q) :
    errand.IsWithin (IsArchived.scope directory start) := by
  refine isWithin_of ?_ (fun _ _ => ⟨trivial, trivial⟩) houtputs
  rintro payload rfl submission haccepted
  obtain ⟨text, hparse⟩ := hread
  exact Submission.hasDecodedFacts_of_read (Json.isDecoded_of_parse hparse) haccepted

/-- After a run of errands over a fresh directory, whose submissions were read from JSON texts, the
applications that are read back are the settled forms of those that were decided on.  For each of
them its vacancy is read back, and there is a time of the run at which it was decided on.  The
evaluation of the reduced facts by the requirements of the vacancy at this time comes back.  Its
reasons are those of the decision exactly if no verdict of an equality rule is lost by the
reduction; and if none is, it is satisfied exactly if the candidate was accepted, and its reasons
make the feedback. -/
theorem Errand.run_justified (setup : Setup) {directory : Path} {errands : List (Instant × Errand)}
    {s : Session} (hstore : s.store = .inDirectory directory) (hfresh : IsFresh s.files directory)
    (htrail : s.HasSeparateTrail) (hextractor : setup.extractor.KeepsDecoded)
    (hread : ∀ e ∈ errands, e.2.IsRead)
    (houtputs : ∀ e ∈ errands, ∀ q ∈ e.2.outputs,
      ∀ name ∈ [Store.vacanciesName, Store.applicationsName],
        s.files.IsOff q (directory.child name)) :
    let last := after setup errands s
    ∃ decided : List Application,
      last.store.applications.toList last.files = .ok (decided.map (·.settled))
        ∧ ∀ a ∈ decided,
          ∃ v, last.store.vacancies.get? last.files a.settled.vacancyId = .ok (some v)
          ∧ ∃ now ∈ errands.map (·.1), IsDecision setup now v a
            ∧ ∃ e, setup.panel.evaluate now a.settled.facts v.requirements = .ok e
              ∧ (e.reasons = Rule.unmetReasons now a.facts v.requirements
                ↔ ∀ r, .equality r ∈ v.requirements → (Rule.equality r).Persists now a.facts)
              ∧ ((∀ r, .equality r ∈ v.requirements → (Rule.equality r).Persists now a.facts) →
                (e.satisfied = true ↔ a.settled.status = .accepted)
                  ∧ Decision.feedback ⟨e, setup.separator⟩ = .ok a.settled.feedback) := by
  intro last
  -- that the files back every application is an invariant, which the outputs keep away from
  have hwithin : ∀ e ∈ errands,
      IsInvariant setup e.1 (IsArchived.scope directory s)
          (IsArchived setup (errands.map (·.1)) directory s)
        ∧ e.2.IsWithin (IsArchived.scope directory s) := fun e he =>
    ⟨IsArchived.isInvariant (List.mem_map_of_mem he) hextractor (htrail.spares hstore),
      isWithin_archive (hread e he) (houtputs e he)⟩
  have hlast : IsArchived setup (errands.map (·.1)) directory s last :=
    IsInvariant.run hwithin (.of_isFresh hstore hfresh)
  obtain ⟨vacancies, applications, hvacancies, happlications, hbacked⟩ := hlast.archives
  rw [hlast.store]
  refine ⟨applications.records, happlications.toList_eq, fun a ha => ?_⟩
  obtain ⟨hdecoded, v, hv, now, hnow, hdecision⟩ := hbacked a ha
  obtain ⟨e, heval⟩ := hdecision.exists_evaluate_settled hdecoded
  refine ⟨v, hvacancies.get?_of_isDecision hv hdecision, now, hnow, hdecision, e, heval, ?_,
    fun hequality => ?_⟩
  · rw [Evaluation.reasons_eq heval, hdecision.facts_settled]
    exact Rule.unmetReasons_plain_iff hdecoded hdecision.judged
  · exact (hdecision.settled (Rule.persists_of_equality hdecoded hequality)).satisfied_iff heval

/-! ## A decision that can be justified -/

/-- A session over an empty directory. -/
def Session.overBare : Session := { files := .bare, store := .inDirectory rootPath }

/-- The id of the first vacancy that is registered. -/
def firstVacancyId : Text := "vac_00000000000000000000000000000001"

/-- An application without documents for the first vacancy. -/
def firstPayload : Payload := .document (.record [("vacancy_id", .text firstVacancyId)])

/-- A posting for somebody who is older than thirty, and an application of somebody who is
twenty-five. -/
def seniorErrands : List (Instant × Errand) :=
  [(Pipeline.analystDay, .registerVacancy { analystDraft with requirements := [seniorRule] }),
    (Pipeline.analystDay, .submit firstPayload)]

lemma isRead_firstPayload : (Errand.submit firstPayload).IsRead := by
  have hdecoded : firstPayload.value.IsDecoded := by
    refine Value.isDecoded_record (by simp) ?_
    simpa using .text _
  have hparse : Json.parse (CodePoint.chars (Json.write .record 0 firstPayload.value))
      = .ok firstPayload.value :=
    Json.parse_write (n := 2) Json.Style.isSpaced_record (by rfl) hdecoded rfl (by decide)
  exact ⟨_, hparse⟩

/-- What is read back after the errands. -/
lemma readBack_seniorErrands :
    let last := Errand.after {} seniorErrands .overBare
    (last.store.applications.toList last.files).toOption.map (·.map (·.vacancyId))
        = some [firstVacancyId]
      ∧ (last.store.vacancies.get? last.files firstVacancyId).toOption.map (·.map (·.requirements))
        = some (some [seniorRule]) := by
  decide +kernel

theorem Errand.run_justified_senior :
    let last := after {} seniorErrands .overBare
    IsFresh Session.overBare.files rootPath ∧ Session.overBare.HasSeparateTrail
      ∧ ({} : Setup).extractor.KeepsDecoded ∧ (∀ e ∈ seniorErrands, e.2.IsRead)
      ∧ (∀ e ∈ seniorErrands, e.2.outputs = [])
      ∧ ∃ b v now e, last.store.applications.toList last.files = .ok [b]
        ∧ last.store.vacancies.get? last.files b.vacancyId = .ok (some v)
        ∧ Panel.standard.evaluate now b.facts v.requirements = .ok e
        ∧ (e.satisfied = true ↔ b.status = .accepted)
        ∧ Decision.feedback ⟨e, some "; "⟩ = .ok b.feedback := by
  intro last
  have hseparate : Session.overBare.HasSeparateTrail := by
    rintro p - q hq
    cases hq
  have hextractor : ({} : Setup).extractor.KeepsDecoded :=
    Extractor.keepsDecoded_standard Facts.isDecoded_usual
  have hread : ∀ e ∈ seniorErrands, e.2.IsRead := by
    simp only [seniorErrands, List.forall_mem_cons]
    exact ⟨trivial, isRead_firstPayload, by simp⟩
  have houtputs : ∀ e ∈ seniorErrands, e.2.outputs = [] := by
    simp only [seniorErrands, List.forall_mem_cons]
    exact ⟨rfl, rfl, by simp⟩
  have hstore : Session.overBare.store = .inDirectory rootPath := rfl
  have hjustified := run_justified {} hstore isFresh_bare hseparate hextractor hread
    fun e he q hq => by simp [houtputs e he] at hq
  have hreadBack := readBack_seniorErrands
  -- from here on it does not matter how the run came to its end
  have hlast : after {} seniorErrands .overBare = last := rfl
  rw [hlast] at hreadBack hjustified
  clear_value last
  obtain ⟨decided, hlist, hdecided⟩ := hjustified
  obtain ⟨hids, hposting⟩ := hreadBack
  rw [hlist] at hids
  have hids : (decided.map (·.settled)).map (·.vacancyId) = [firstVacancyId] := Option.some.inj hids
  rw [List.map_map] at hids
  obtain ⟨a, rfl, hid⟩ := List.map_eq_singleton_iff.1 hids
  obtain ⟨v, hget, now, -, -, e, heval, -, hjustified⟩ := hdecided a List.mem_cons_self
  have hrequirements : v.requirements = [seniorRule] := by
    have hid : a.settled.vacancyId = firstVacancyId := hid
    rw [← hid, hget] at hposting
    exact Option.some.inj (Option.some.inj hposting)
  have hnone : ∀ r, .equality r ∈ v.requirements → (Rule.equality r).Persists now a.facts := by
    rw [hrequirements]
    intro r hr
    cases List.mem_singleton.1 hr
  exact ⟨isFresh_bare, hseparate, hextractor, hread, houtputs, a.settled, v, now, e, hlist, hget,
    heval, hjustified hnone⟩

end Shortlist
