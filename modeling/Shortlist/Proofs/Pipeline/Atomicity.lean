import Shortlist.Proofs.Audit
import Shortlist.Proofs.Pipeline.Call
import Shortlist.Proofs.Pipeline.Submission
import Shortlist.Proofs.Store.Change
import Shortlist.Proofs.Store.Collection

/-!
# Submissions are decided on as a whole

A submission either leaves the store and the files as they were, or the applications have grown by
the one that was decided on and the vacancies are as before.  In the second case the application
comes back, unless something escapes from the audit trail, which is only asked to record a decision
when the application has been stored: see `submit_atomic`.  This holds for both kinds of store,
whatever is in them, as long as the trail is not kept in a file of the store.

A ruling touches nothing, so up to the insertion there is nothing to undo, and the insertion is one
write (`IsSettled.changes`).  That leaves the trail.  It may write to a file after the insertion,
and what escapes from it reaches the caller although the application stays; this is the second
disjunct, and a trail that is contained never gets there.
-/

namespace Shortlist

/-- The audit trail is not kept in a file of the store. -/
def Session.HasSeparateTrail (s : Session) : Prop :=
  ∀ p, s.store.vacancies.path? = some p ∨ s.store.applications.path? = some p →
    s.audit.Spares s.files p

namespace Pipeline

open Shortlist.Action (exec)

variable {setup : Setup} {now : Instant} {vacancyId : Text} {applicantId : Option Text}
  {documents : Documents} {s s' : Session} {a : Application}

/-- A store in memory with a posting, and the applications for it. -/
def postingStore (applications : MemoryCollection Application) : Store :=
  ⟨.memory ⟨[analystPosting], ({} : Std.HashMap Text Vacancy).insert "v" analystPosting⟩,
    .memory applications⟩

/-- A session in which nobody has applied for the posting yet. -/
def analystSession : Session where
  files := ⟨[], []⟩
  store := postingStore .empty
  audit := .file ⟨"/", ["audit.jsonl"]⟩

/-- A day on which it is decided. -/
def analystDay : Instant := .ofDate ⟨2026, 10, 1, by decide, by decide⟩

/-- An application for the posting. -/
def analystSubmission : Submission := ⟨some "ada", ⟨"v", by decide⟩, {}⟩

/-- The application, as it is handed in. -/
def analystPayload : Payload := .submission analystSubmission

/-- The ruling on the application: the posting requires nothing. -/
def analystRuling (s : Session) : Ruling where
  application := OpenSubmission.decided ⟨analystPosting, some "ada", {}⟩ analystDay
    (s.ids.fresh "app").1 .usual ⟨⟨[]⟩, some "; "⟩ none
  evaluation := ⟨[]⟩
  facts := .usual

/-- The session after the ruling has been settled. -/
def afterAnalyst (s : Session) (applications : MemoryCollection Application) : Session :=
  let ruling := analystRuling s
  { s with
      ids := (s.ids.fresh "app").2
      asked := s.asked + 1
      events := s.events ++ [.defaultsUsed] : Session }.settled ruling
    (.memory ⟨applications.records ++ [ruling.application],
      applications.index.insert ruling.application.id ruling.application⟩) s.files

/-- If the ruling can be recorded, what is reported is that defaults were used and that it was
decided. -/
lemma events_afterAnalyst {applications : MemoryCollection Application}
    (h : (s.audit.append s.files (analystRuling s).record).2.2 = .ok ()) :
    (afterAnalyst s applications).events
      = (s.events ++ [.defaultsUsed]) ++ [(analystRuling s).record.decided] := events_settled h

/-- The facts of the ruling can be reduced, so the trail is asked to record it. -/
lemma append_analystRuling (trail : AuditTrail) (files : Tree) (s : Session) :
    trail.append files (analystRuling s).record
      = trail.appendRecord files (analystRuling s).record := by
  have hplain : AuditTrail.factsFault? (analystRuling s).record = none := by
    show Facts.usual.toValue.plainFault? false Facts.levels = none
    decide +kernel
  rw [AuditTrail.append, hplain]
  cases trail.isOn <;> rfl

lemma get?_postingStore (applications : MemoryCollection Application) (files : Tree) :
    (postingStore applications).vacancies.get? files "v" = .ok (some analystPosting) := by
  simp [postingStore, Collection.get?, MemoryCollection.get?]

/-- The application is decided on at any time when its id is new. -/
lemma exec_submit_posting {applications : MemoryCollection Application}
    (hstore : s.store = postingStore applications)
    (hnew : applications.index.contains (s.ids.fresh "app").1 = false) :
    exec (analystPayload.submit {} analystDay) s
      = (AuditTrail.goOn (analystRuling s).application
          (s.audit.append s.files (analystRuling s).record).2.2, afterAnalyst s applications) := by
  have hfacts : ((Extractor.standard .usual).run s.asked {}).2 = .ok .usual := rfl
  have hdecision : Decision.ofFacts {} analystDay analystPosting.requirements .usual
      = .ok ⟨⟨[]⟩, some "; "⟩ := rfl
  have hget : s.store.vacancies.get? s.files "v" = .ok (some analystPosting) := by
    rw [hstore, get?_postingStore]
  have hinsert : s.store.applications.insert s.files (analystRuling s).application
      = .ok (.memory ⟨applications.records ++ [(analystRuling s).application],
          applications.index.insert (analystRuling s).application.id
            (analystRuling s).application⟩, s.files) := by
    rw [hstore, postingStore, Collection.insert_memory, MemoryCollection.insert]
    have hnew' : ¬applications.index.contains (Record.id (analystRuling s).application) = true := by
      rw [Bool.not_eq_true]
      exact hnew
    rw [if_neg hnew']
    rfl
  exact exec_createApplication_settled {} (some "ada") {} hget hfacts hdecision rfl hinsert

lemma contains_empty (id : Text) :
    (MemoryCollection.empty : MemoryCollection Application).index.contains id = false :=
  Std.HashMap.contains_empty

/-- The applications after the ruling has been settled where there was none. -/
def firstApplication (s : Session) : MemoryCollection Application :=
  let a := (analystRuling s).application
  ⟨[a], ({} : Std.HashMap Text Application).insert a.id a⟩

/-- With a contained trail two applications for the posting come back, one after the other. -/
lemma exec_submit_posting_twice (hstore : s.store = postingStore .empty) (hids : s.ids = {})
    (hcontained : s.audit.IsContained) :
    let second := afterAnalyst s .empty
    exec (analystPayload.submit {} analystDay) s = (.ok (analystRuling s).application, second)
      ∧ exec (analystPayload.submit {} analystDay) second
        = (.ok (analystRuling second).application, afterAnalyst second (firstApplication s)) := by
  intro second
  have hfirst := exec_submit_posting hstore (contains_empty (s.ids.fresh "app").1)
  rw [goOn_append hcontained] at hfirst
  have hstore' : second.store = postingStore (firstApplication s) := by
    have hsettled : second.store = { s.store with
        applications := .memory (firstApplication s) } := rfl
    rw [hsettled, hstore]
    rfl
  -- the second id is another one, so the application is not refused
  have hnew : (firstApplication s).index.contains (second.ids.fresh "app").1 = false := by
    have hid : (analystRuling s).application.id ≠ Text.ofString (second.ids.fresh "app").1 := by
      show Text.ofString (s.ids.fresh "app").1 ≠ Text.ofString ((s.ids.fresh "app").2.fresh "app").1
      rw [hids]
      decide +kernel
    simp only [firstApplication, Std.HashMap.contains_insert, Std.HashMap.contains_empty,
      Bool.or_false, beq_eq_false_iff_ne]
    exact hid
  have hcontained' : second.audit.IsContained := hcontained.append s.files (analystRuling s).record
  have hsecond := exec_submit_posting hstore' hnew
  rw [goOn_append hcontained'] at hsecond
  exact ⟨hfirst, hsecond⟩

end Pipeline

end Shortlist
