import Shortlist.Proofs.Batch.Isolation
import Shortlist.Proofs.Pipeline.Trail

/-!
# How far a batch has come

What the decisions on some entries leave behind, whatever happens to the others.  The store, which
is in memory, has grown by one application for each entry that is decided on
(`Pipeline.Decides.keeps`), and a recorder that never fails has recorded each of them
(`AuditTrail.Remembers`).  None of this depends on the files or on what has been reported
(`Session.ActsAlike`), so the same decisions are left behind by a batch over a file that holds these
entries and no others.

A batch that breaks off over one line is compared in this way with the batch over the lines in front
of it.  The two have read different files and will report different numbers of lines, but they act
alike, and acting alike is kept by every decision.
-/

namespace Shortlist

open Shortlist.Action (exec exec_bind exec_bind_ok)

/-! ## What a recorder remembers -/

namespace AuditTrail

variable {trail trail' trail'' : AuditTrail} {told told' : List AuditRecord} {files : Tree}
  {r : AuditRecord}

/-- A recorder that never fails. -/
def recording (calls : Nat) (records : List AuditRecord) : AuditTrail :=
  .recorder (fun _ => none) calls records

/-- If a trail is a recorder that never fails, it has recorded these decisions in the meantime, and
no others. -/
def Remembers (told : List AuditRecord) (trail trail' : AuditTrail) : Prop :=
  ∀ calls records, trail = recording calls records →
    ∃ calls', trail' = recording calls' (records ++ told)

lemma Remembers.refl (trail : AuditTrail) : Remembers [] trail trail :=
  fun calls records h => ⟨calls, by rw [h, List.append_nil]⟩

lemma Remembers.trans (h : Remembers told trail trail') (h' : Remembers told' trail' trail'') :
    Remembers (told ++ told') trail trail'' := by
  intro calls records hrecording
  obtain ⟨calls', hfirst⟩ := h calls records hrecording
  obtain ⟨calls'', hsecond⟩ := h' calls' _ hfirst
  exact ⟨calls'', by rw [hsecond, List.append_assoc]⟩

/-- A decision whose facts can be reduced is recorded. -/
lemma remembers_append (trail : AuditTrail) (files : Tree) (h : factsFault? r = none) :
    Remembers [r] trail (trail.append files r).1 := by
  rintro calls records rfl
  refine ⟨calls + 1, ?_⟩
  rw [append, h]
  rfl

/-- A decision whose facts cannot be reduced is not recorded. -/
lemma remembers_append_of_fault (trail : AuditTrail) (files : Tree) {fault : Value.PlainFault}
    (h : factsFault? r = some fault) : Remembers [] trail (trail.append files r).1 := by
  rintro calls records rfl
  refine ⟨calls, ?_⟩
  rw [append, h, List.append_nil]
  rfl

/-- What a trail has become does not depend on the files. -/
lemma append_fst (trail : AuditTrail) (files files' : Tree) (r : AuditRecord) :
    (trail.append files' r).1 = (trail.append files r).1 := by
  have hrecord : (trail.appendRecord files' r).1 = (trail.appendRecord files r).1 := by
    cases trail with
    | off => rfl
    | file p => rfl
    | recorder failure calls records =>
      rw [appendRecord, appendRecord]
      cases failure calls <;> rfl
  rw [append, append]
  split
  · rfl
  · exact hrecord

end AuditTrail

/-- An application can be reduced exactly if its facts can. -/
lemma Application.plainFault?_eq_none_iff {a : Application} {facts : Facts}
    (h : a.documents.facts = some facts) :
    a.toValue.plainFault? false Application.levels = none
      ↔ facts.toValue.plainFault? false Facts.levels = none := by
  have htext (t : Option Text) {levels : Nat} :
      (Value.ofText? t).plainFault? false (levels + 1) = none := by cases t <;> rfl
  have haddress (w : Option WebAddress) {levels : Nat} :
      (Documents.addressValue w).plainFault? false (levels + 1) = none := by cases w <;> rfl
  have hfacts : Documents.factsValue a.documents.facts = facts.toValue := by rw [h]; rfl
  -- on both levels the facts are the only field that may go to any depth
  have hdocuments : a.documents.toValue.plainFault? false Documents.levels = none
      ↔ facts.toValue.plainFault? false Facts.levels = none := by
    rw [← hfacts]
    refine Value.plainFault?_record.trans
      ⟨fun hfields => hfields ("parsed", Documents.factsValue a.documents.facts) ?_, ?_⟩
    · exact .tail _ (.tail _ (.tail _ (.head _)))
    intro hparsed f hf
    simp only [List.mem_cons, List.not_mem_nil, or_false] at hf
    rcases hf with rfl | rfl | rfl | rfl
    · exact haddress _
    · exact haddress _
    · exact haddress _
    · exact hparsed
  rw [← hdocuments]
  refine Value.plainFault?_record.trans
    ⟨fun hfields => hfields ("documents", a.documents.toValue) ?_, ?_⟩
  · exact .tail _ (.tail _ (.tail _ (.head _)))
  intro hreducible f hf
  simp only [List.mem_cons, List.not_mem_nil, or_false] at hf
  rcases hf with rfl | rfl | rfl | rfl | rfl | rfl | rfl
  · exact htext (some _)
  · exact htext _
  · exact htext (some _)
  · exact hreducible
  · exact htext (some _)
  · exact htext _
  · exact htext (some _)

/-! ## Sessions that act alike -/

/-- Two sessions with the same store, which is in memory, the same ids to draw, an extractor that
has been asked equally often, and the same trail.  Their files and events need not be the same. -/
structure Session.ActsAlike (s t : Session) : Prop where
  store : t.store = s.store
  vacancies : s.store.vacancies.path? = none
  applications : s.store.applications.path? = none
  ids : t.ids = s.ids
  asked : t.asked = s.asked
  audit : t.audit = s.audit

namespace Session.ActsAlike

variable {s t : Session}

/-- Other files make no difference if the store is in memory. -/
lemma withFiles {l : Ledger} (h : s.Holds l) (files : Tree) :
    s.ActsAlike { s with files } := by
  obtain ⟨vacancies, applications, hstore, -⟩ := h
  exact ⟨rfl, by rw [hstore]; rfl, by rw [hstore]; rfl, rfl, rfl, rfl⟩

lemma of_matches {s' t' : Session} (h : s.ActsAlike t) (hs : s.Matches s') (ht : t.Matches t') :
    s'.ActsAlike t' := by
  obtain ⟨events, rfl⟩ := hs
  obtain ⟨events', rfl⟩ := ht
  exact ⟨h.store, h.vacancies, h.applications, h.ids, h.asked, h.audit⟩

/-- A collection in memory does not look at the files. -/
lemma exists_memory {α : Type} {c : Collection α} (h : c.path? = none) :
    ∃ m, c = .memory m := by
  cases c with
  | memory m => exact ⟨m, rfl⟩
  | file p => cases h

lemma showsAlike (h : s.ActsAlike t) : s.ShowsAlike t := by
  obtain ⟨vacancies, hvacancies⟩ := exists_memory h.vacancies
  obtain ⟨applications, happlications⟩ := exists_memory h.applications
  constructor
  · intro id
    rw [h.store, hvacancies]
    rfl
  · rw [h.store, hvacancies]
    rfl
  · rw [h.store, happlications]
    rfl
  · intro condition
    rw [h.store, happlications]
    rfl

/-- What is inserted into a collection in memory does not depend on the files. -/
lemma insert_of_path? {α : Type} [Record α] {c : Collection α} (h : c.path? = none)
    (files files' : Tree)
    (a : α) :
    (∃ fault, c.insert files a = .error fault ∧ c.insert files' a = .error fault)
      ∨ ∃ c', c.insert files a = .ok (c', files) ∧ c.insert files' a = .ok (c', files')
        ∧ c'.path? = none := by
  obtain ⟨m, rfl⟩ := exists_memory h
  rw [Collection.insert_memory, Collection.insert_memory]
  cases m.insert a with
  | error fault => exact .inl ⟨fault, rfl, rfl⟩
  | ok m' => exact .inr ⟨.memory m', rfl, rfl, rfl⟩

lemma respects_insertVacancy (v : Vacancy) :
    (Session.insertVacancy v).Respects ActsAlike fun _ => False := by
  intro s t h
  rw [Action.agreeUntil_never, Session.exec_insertVacancy, Session.exec_insertVacancy, h.store]
  rcases insert_of_path? h.vacancies s.files t.files v with
    ⟨fault, hs, ht⟩ | ⟨vacancies, hs, ht, hpath⟩
  · rw [hs, ht]
    exact ⟨rfl, h⟩
  · rw [hs, ht]
    exact ⟨rfl, { h with store := rfl, vacancies := hpath }⟩

lemma respects_settle (h : s.ActsAlike t) (ruling : Ruling) :
    Action.AgreeUntil ActsAlike (fun _ => False) (exec (Pipeline.settle ruling) s)
      (exec (Pipeline.settle ruling) t) := by
  rw [Action.agreeUntil_never]
  rcases insert_of_path? h.applications s.files t.files ruling.application with
    ⟨fault, hs, ht⟩ | ⟨applications, hs, ht, hpath⟩
  · rw [← h.store] at ht
    rw [Pipeline.exec_settle_of_error hs, Pipeline.exec_settle_of_error ht]
    exact ⟨rfl, h⟩
  · rw [← h.store] at ht
    rw [Pipeline.exec_settle_eq ruling hs, Pipeline.exec_settle_eq ruling ht]
    -- the trail may be a file in which only one of the two can write, but it goes on either way
    have hgoes : AuditTrail.goOn ruling.application (t.audit.append t.files ruling.record).2.2
        = AuditTrail.goOn ruling.application (s.audit.append s.files ruling.record).2.2 := by
      rw [h.audit]
      exact Pipeline.goOn_append_files _ _ _ _ _
    refine ⟨hgoes, ?_⟩
    exact
      { store := by rw [Session.settled, Session.settled, h.store]
        vacancies := h.vacancies
        applications := hpath
        ids := h.ids
        asked := h.asked
        audit := by
          rw [Session.settled, Session.settled, h.audit]
          exact AuditTrail.append_fst _ _ _ _ }

/-- Work that neither reads nor writes files. -/
def scope : Scope where
  documents _ := True
  reads _ := False
  writes _ := False
  documents_of_hasDecodedFacts _ _ := trivial

lemma isRespected (setup : Setup) (now : Instant) :
    IsRespected setup now scope ActsAlike fun _ => False where
  escapes _ h := h.elim
  showsAlike _ _ h := h.showsAlike
  report _ _ _ _ h := Action.agreeUntil_never.2 ⟨rfl, h.of_matches ⟨_, rfl⟩ ⟨_, rfl⟩⟩
  freshId word s t h := by
    rw [Action.agreeUntil_never, Session.exec_freshId, Session.exec_freshId, h.ids]
    exact ⟨rfl, { h with ids := rfl }⟩
  askExtractor documents s t h := by
    rw [Action.agreeUntil_never, Session.exec_askExtractor, Session.exec_askExtractor, h.asked]
    exact ⟨rfl, { h with asked := rfl }⟩
  insertVacancy := respects_insertVacancy
  settle _ _ ruling h _ := h.respects_settle ruling
  readFile _ hp := hp.elim
  makeDirectories _ hp := hp.elim
  write _ _ hp := hp.elim

end Session.ActsAlike

/-! ## Decisions on entries -/

namespace Pipeline

open Session

variable {setup : Setup} {now : Instant} {v : Vacancy} {entry : BatchEntry} {a : Application}
  {vacancyId : Text} {applicantId : Option Text} {documents : Documents} {number : Nat}
  {entries : List BatchEntry} {results : List Application} {mismatches : List BatchError}
  {l : Ledger}
  {s s' : Session}

instance : Decidable (Joins vacancyId entry) := inferInstanceAs (Decidable (_ ∨ _))

/-- The entries that are decided on. -/
def joining (vacancyId : Text) (entries : List BatchEntry) : List BatchEntry :=
  entries.filter fun entry => Joins vacancyId entry

lemma joining_cons_of_joins (h : Joins vacancyId entry) :
    joining vacancyId (entry :: entries) = entry :: joining vacancyId entries :=
  List.filter_cons_of_pos (by simpa using h)

lemma joining_cons_of_not (h : ¬Joins vacancyId entry) :
    joining vacancyId (entry :: entries) = joining vacancyId entries :=
  List.filter_cons_of_neg (by simpa using h)

/-- An application is a decision of a vacancy on an entry: on the facts that it holds, for the
applicant of the entry, with the evidence of the entry. -/
structure IsDecisionOn (setup : Setup) (now : Instant) (v : Vacancy) (entry : BatchEntry)
    (a : Application) : Prop where
  decision : IsDecision setup now v a
  applicant : a.applicantId = entry.applicantId
  documents : ∃ facts, a.documents = { entry.documents with facts := some facts }

/-- What it leaves behind when a ruling on an entry is settled: one more application, which is a
decision on the entry. -/
lemma IsSettled.keeps {w : Vacancy} {ruling : Ruling} {applications : Collection Application}
    {added : Tree} (hl : s.Holds l) (hv : l.vacancies.find? (fun w => w.id = v.id) = some v)
    (h : IsSettled setup now s v.id entry.applicantId entry.documents w ruling applications
      added s') :
    IsDecisionOn setup now v entry ruling.application
      ∧ s'.Holds { l with applications := l.applications ++ [ruling.application] } := by
  obtain rfl : w = v := by
    have hget := h.ruled.vacancy
    rw [hl.get?_eq, hv] at hget
    exact (Option.some.inj (Except.ok.inj hget)).symm
  obtain ⟨-, -, hheld⟩ := hl.of_insert_application h.inserted
  exact ⟨⟨h.ruled.isDecision, h.ruled.applicant, _, h.ruled.documents⟩, hheld _ h.store⟩

/-- An application that comes back is recorded, too, if it can be reduced. -/
lemma exec_createApplication_keeps (hl : s.Holds l)
    (hv : l.vacancies.find? (fun w => w.id = v.id) = some v)
    (h : exec (createApplication setup now v.id entry.applicantId entry.documents) s
      = (.ok a, s')) :
    IsDecisionOn setup now v entry a
      ∧ s'.Holds { l with applications := l.applications ++ [a] }
      ∧ (a.toValue.plainFault? false Application.levels = none →
        ∃ r : AuditRecord, r.IsAbout setup a ∧ s.audit.Remembers [r] s'.audit)
      ∧ (a.toValue.plainFault? false Application.levels ≠ none →
        s.audit.Remembers [] s'.audit) := by
  obtain ⟨w, ruling, applications, added, rfl, hsettled⟩ := exec_createApplication_ok h
  obtain ⟨hdecision, hheld⟩ := hsettled.keeps hl hv
  have hfacts : ruling.application.documents.facts = some ruling.facts := by
    rw [hsettled.ruled.documents]
  have hreducible : ruling.application.toValue.plainFault? false Application.levels = none
      ↔ AuditTrail.factsFault? ruling.record = none :=
    Application.plainFault?_eq_none_iff hfacts
  refine ⟨hdecision, hheld, ?_, ?_⟩
  · intro hnone
    refine ⟨ruling.record, hsettled.ruled.isAbout, ?_⟩
    rw [hsettled.audit]
    exact AuditTrail.remembers_append _ _ (hreducible.1 hnone)
  · intro hsome
    obtain ⟨fault, hfault⟩ := Option.ne_none_iff_exists'.1 (mt hreducible.2 hsome)
    rw [hsettled.audit]
    exact AuditTrail.remembers_append_of_fault _ _ hfault

/-- What the decisions on entries leave behind: one more application for each entry that is decided
on, and one more record for each of these. -/
theorem Decides.keeps (h : Decides setup now v.id number entries s results mismatches s')
    (hl : s.Holds l) (hv : l.vacancies.find? (fun w => w.id = v.id) = some v) :
    List.Forall₂ (IsDecisionOn setup now v) (joining v.id entries) results
      ∧ s'.Holds { l with applications := l.applications ++ results }
      ∧ ∃ told, List.Forall₂ (AuditRecord.IsAbout setup) results told
        ∧ s.audit.Remembers told s'.audit := by
  -- for the induction the id is one that the entries are compared with, whosever it is
  generalize hid : v.id = vacancyId at h
  induction h generalizing l with
  | nil number s => exact ⟨.nil, by simpa using hl, [], .nil, .refl _⟩
  | @mismatch number entry rest other s s₁ s' results mismatches hother hne hreport hrest ih =>
    obtain ⟨events, rfl⟩ := hreport
    have hleft : ¬Joins vacancyId entry := by
      rintro (hnone | hsame)
      · cases hother.symm.trans hnone
      · exact hne (Option.some.inj (hother.symm.trans hsame))
    rw [joining_cons_of_not hleft]
    exact ih (hl.of_store_eq rfl) hv
  | @application number entry rest a s s₁ s' results mismatches hjoins hcreate hreducible hrest
      ih =>
    rw [← hid] at hcreate
    obtain ⟨hdecision, hheld, hrecorded, -⟩ := exec_createApplication_keeps hl hv hcreate
    obtain ⟨r, hr, hremembers⟩ := hrecorded hreducible
    obtain ⟨hdecisions, hholds, told, htold, hremembered⟩ := ih hheld hv
    rw [joining_cons_of_joins hjoins]
    refine ⟨.cons hdecision hdecisions, ?_, r :: told, .cons hr htold, hremembers.trans hremembered⟩
    simpa using hholds

end Pipeline

end Shortlist
