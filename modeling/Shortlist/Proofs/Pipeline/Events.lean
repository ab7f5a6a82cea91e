import Shortlist.Proofs.Pipeline.Submission

/-!
# Events make no difference

A pipeline reports what it does, but never looks at what has been reported.  Two sessions that are
the same but for the events (`Session.Matches`) come to the same outcome, and are the same but for
the events afterwards (`Action.IgnoresEvents`).  So whatever is reported between two pieces of work
can be left out.
-/

namespace Shortlist

open Shortlist.Action (exec exec_bind exec_bind_ok)

/-- Two sessions that are the same but for the events so far. -/
def Session.Matches (s t : Session) : Prop := ∃ events, t = { s with events }

namespace Session.Matches

variable {s t u : Session}

lemma refl (s : Session) : s.Matches s := ⟨s.events, rfl⟩

lemma symm (h : s.Matches t) : t.Matches s := by
  obtain ⟨events, rfl⟩ := h
  exact ⟨s.events, rfl⟩

lemma trans (h : s.Matches t) (h' : t.Matches u) : s.Matches u := by
  obtain ⟨events, rfl⟩ := h
  obtain ⟨events', rfl⟩ := h'
  exact ⟨events', rfl⟩

end Session.Matches

namespace Action

variable {α β : Type}

/-- An action that comes to the same thing whatever the events so far. -/
def IgnoresEvents (action : Action α) : Prop :=
  ∀ s t : Session, s.Matches t →
    (exec action t).1 = (exec action s).1 ∧ (exec action s).2.Matches (exec action t).2

lemma IgnoresEvents.bind {x : Action α} {f : α → Action β} (hx : x.IgnoresEvents)
    (hf : ∀ a, (f a).IgnoresEvents) : (x >>= f).IgnoresEvents := by
  intro s t h
  exact exec_bind_related (hx s t h) fun a s' t' _ hmatches => hf a s' t' hmatches

/-- What an action that ignores the events comes to in a session that matches. -/
lemma IgnoresEvents.exec_ok {x : Action α} (hx : x.IgnoresEvents) {s s' t : Session} {a : α}
    (h : exec x s = (.ok a, s')) (hmatches : s.Matches t) :
    ∃ t', exec x t = (.ok a, t') ∧ s'.Matches t' := by
  have hboth := hx s t hmatches
  rw [h] at hboth
  exact ⟨(exec x t).2, Prod.ext hboth.1 rfl, hboth.2⟩

lemma ignoresEvents_pure (a : α) : (pure a : Action α).IgnoresEvents := fun _ _ h => ⟨rfl, h⟩

lemma ignoresEvents_throw (fault : Fault) : (throw fault : Action α).IgnoresEvents :=
  fun _ _ h => ⟨rfl, h⟩

lemma ignoresEvents_lift (outcome : Except Fault α) :
    IgnoresEvents (ExceptT.mk (pure outcome) : Action α) := fun _ _ h => ⟨rfl, h⟩

end Action

namespace Session

lemma ignoresEvents_report (events : List Event) : (report events).IgnoresEvents := by
  rintro s _ ⟨others, rfl⟩
  exact ⟨rfl, _, rfl⟩

lemma ignoresEvents_freshId (word : String) : (freshId word).IgnoresEvents := by
  rintro s _ ⟨others, rfl⟩
  exact ⟨rfl, _, rfl⟩

lemma ignoresEvents_askExtractor (extractor : Extractor) (documents : Documents) :
    (askExtractor extractor documents).IgnoresEvents := by
  rintro s _ ⟨others, rfl⟩
  exact ⟨rfl, _, rfl⟩

lemma ignoresEvents_insertApplication (a : Application) : (insertApplication a).IgnoresEvents := by
  rintro s _ ⟨others, rfl⟩
  rw [exec_insertApplication, exec_insertApplication]
  cases s.store.applications.insert s.files a with
  | error fault => exact ⟨rfl, _, rfl⟩
  | ok inserted => exact ⟨rfl, _, rfl⟩

lemma ignoresEvents_record (r : AuditRecord) : (record r).IgnoresEvents := by
  rintro s _ ⟨others, rfl⟩
  rw [exec_record, exec_record]
  exact ⟨rfl, _, rfl⟩

end Session

namespace Pipeline

open Session
open Shortlist.Action (IgnoresEvents ignoresEvents_pure ignoresEvents_throw ignoresEvents_lift)

variable {setup : Setup} {now : Instant}

lemma ignoresEvents_openSubmission (vacancyId : Text) (applicantId : Option Text)
    (documents : Documents) : (openSubmission vacancyId applicantId documents).IgnoresEvents := by
  rintro s _ ⟨others, rfl⟩
  rw [openSubmission, exec_bind_ok (Action.exec_get _), exec_bind_ok (Action.exec_get _),
    exec_bind, exec_bind, exec_ofStore, exec_ofStore]
  dsimp only
  rcases s.store.vacancies.get? s.files vacancyId with fault | _ | v <;> exact ⟨rfl, _, rfl⟩

lemma ignoresEvents_draw (submission : OpenSubmission) (facts : Facts) (decision : Decision) :
    (draw setup now submission facts decision).IgnoresEvents := by
  have hid : (applicationId setup.applicationIds).IgnoresEvents := by
    cases setup.applicationIds with
    | drawn => exact ignoresEvents_freshId _
    | always id => exact ignoresEvents_pure _
  exact hid.bind fun _ => (ignoresEvents_lift _).bind fun _ => ignoresEvents_pure _

lemma ignoresEvents_judge (submission : OpenSubmission)
    (extracted : List Event × Except ExtractionFault Facts) :
    (judge setup now submission extracted).IgnoresEvents := by
  refine (ignoresEvents_report _).bind fun _ => ?_
  cases extracted.2 with
  | error fault => exact ignoresEvents_throw _
  | ok facts =>
    dsimp only
    cases Decision.ofFacts setup now submission.vacancy.requirements facts with
    | error fault => exact ignoresEvents_throw _
    | ok decision => exact ignoresEvents_draw submission facts decision

lemma ignoresEvents_settle (ruling : Ruling) : (settle ruling).IgnoresEvents :=
  (ignoresEvents_insertApplication _).bind fun _ => (ignoresEvents_report _).bind fun _ =>
    (ignoresEvents_record _).bind fun _ => ignoresEvents_pure _

/-- It makes no difference to a submission what has been reported before. -/
lemma ignoresEvents_createApplication (vacancyId : Text) (applicantId : Option Text)
    (documents : Documents) :
    (createApplication setup now vacancyId applicantId documents).IgnoresEvents := by
  rw [createApplication_eq]
  refine IgnoresEvents.bind ?_ ignoresEvents_settle
  exact (ignoresEvents_openSubmission _ _ _).bind fun submission =>
    (ignoresEvents_askExtractor _ _).bind fun extracted => ignoresEvents_judge submission extracted

end Pipeline

end Shortlist
