import Mathlib.Logic.Relation
import Shortlist.Proofs.Pipeline.Submission
import Shortlist.Proofs.Screening.Evaluation

/-!
# Ledgers

A `Ledger` is what a store holds, whichever way it is kept: the vacancies and the applications in
the order in which they came.  It only grows, by one entry at a time: a vacancy with a new id, or an
application with a new id to a vacancy that is there, with the decision on it (`Ledger.Step`).  The
facts about all ledgers that come about like this are proved once, by induction over the steps.

A step says all that an entry has to satisfy when it comes, so that nothing is assumed of the ledger
in front of it but what earlier steps have made of it.  Two facts are kept: ids are distinct and
each application is to a vacancy that is there (`Ledger.IsConsistent`), and each application has the
decision on it that its vacancy makes (`Ledger.Steps.isDecision`).  The second one survives further
steps because a vacancy is never changed or taken away.

A consistent ledger can be taken apart by vacancies: the applications to each of them, one vacancy
after the other, are all applications (`Ledger.IsConsistent.applications_perm`).
-/

namespace Shortlist

/-! ## Decisions -/

/-- A decision on an application to a vacancy at a time: its status and its feedback are what the
facts that it holds make of the requirements, each of which comes to a verdict.  A candidate is
accepted if all of them are satisfied, and is otherwise told the reasons of those that are not, in
order, with the separator between them. -/
structure IsDecision (setup : Setup) (now : Instant) (v : Vacancy) (a : Application) : Prop where
  vacancyId : a.vacancyId = v.id
  facts : a.documents.facts = some a.facts
  judged : ∀ r ∈ v.requirements, ∃ satisfied, r.verdict now a.facts = .ok satisfied
  accepted_iff_met : a.status = .accepted
    ↔ ∀ r ∈ v.requirements, r.verdict now a.facts = .ok true
  accepted_iff_silent : a.status = .accepted ↔ a.feedback = none
  feedback : a.status = .rejected → ∃ separator, setup.separator = some separator
    ∧ a.feedback = some (separator.join (Rule.unmetReasons now a.facts v.requirements))
  createdAt : a.createdAt = Pipeline.timeText now

/-- Every ruling on a submission is a decision. -/
lemma Pipeline.IsRuling.isDecision {setup : Setup} {now : Instant} {s : Session} {vacancyId : Text}
    {applicantId : Option Text} {documents : Documents} {v : Vacancy} {ruling : Ruling}
    (h : IsRuling setup now s vacancyId applicantId documents v ruling) :
    IsDecision setup now v ruling.application := by
  have hfacts : ruling.application.documents.facts = some ruling.facts := by rw [h.documents]
  have hfacts' : ruling.application.facts = ruling.facts := by
    rw [Application.facts, hfacts]
    rfl
  exact
    { vacancyId := h.vacancyId
      facts := by rw [hfacts, hfacts']
      judged := by
        rw [hfacts']
        exact Evaluation.exists_verdict h.evaluated
      accepted_iff_met := by
        rw [h.status, Decision.status_eq_accepted, hfacts']
        exact Evaluation.satisfied_iff h.evaluated
      accepted_iff_silent := by
        rw [h.status]
        exact Decision.accepted_iff_silent h.feedback
      feedback := fun hrejected => by
        rw [hfacts', ← Evaluation.reasons_eq h.evaluated]
        exact Decision.feedback_of_rejected h.feedback (h.status.symm.trans hrejected)
      createdAt := h.createdAt }

/-! ## Steps -/

/-- The vacancies and the applications of a store. -/
structure Ledger where
  vacancies : List Vacancy
  applications : List Application

namespace Ledger

variable {setup : Setup} {now : Instant} {l l' : Ledger}

/-- The ledger without entries. -/
def empty : Ledger := ⟨[], []⟩

/-- How a ledger grows by one entry at a time. -/
inductive Step (setup : Setup) (now : Instant) (l : Ledger) : Ledger → Prop where
  | vacancy (v : Vacancy) (hnew : ∀ w ∈ l.vacancies, w.id ≠ v.id) :
    Step setup now l { l with vacancies := l.vacancies ++ [v] }
  | application (v : Vacancy) (a : Application) (hv : v ∈ l.vacancies)
    (hnew : ∀ b ∈ l.applications, b.id ≠ a.id) (h : IsDecision setup now v a) :
    Step setup now l { l with applications := l.applications ++ [a] }

/-- How a ledger grows by any number of entries. -/
def Steps (setup : Setup) (now : Instant) : Ledger → Ledger → Prop :=
  Relation.ReflTransGen (Step setup now)

/-- Nothing leaves a ledger. -/
structure Grows (l l' : Ledger) : Prop where
  vacancies : l.vacancies <+: l'.vacancies
  applications : l.applications <+: l'.applications

lemma Grows.refl (l : Ledger) : l.Grows l := ⟨List.prefix_rfl, List.prefix_rfl⟩

lemma Grows.trans {l₁ l₂ l₃ : Ledger} (h : l₁.Grows l₂) (h' : l₂.Grows l₃) : l₁.Grows l₃ :=
  ⟨h.vacancies.trans h'.vacancies, h.applications.trans h'.applications⟩

lemma Step.grows (h : Step setup now l l') : l.Grows l' := by
  cases h with
  | vacancy v hnew => exact ⟨List.prefix_append _ _, List.prefix_rfl⟩
  | application v a hv hnew h => exact ⟨List.prefix_rfl, List.prefix_append _ _⟩

lemma Steps.grows (h : Steps setup now l l') : l.Grows l' := by
  induction h with
  | refl => exact .refl l
  | tail _ hstep ih => exact ih.trans hstep.grows

/-- A ledger in which no id occurs twice and every application is to a vacancy that is there. -/
structure IsConsistent (l : Ledger) : Prop where
  vacancies_nodup : (l.vacancies.map (·.id)).Nodup
  applications_nodup : (l.applications.map (·.id)).Nodup
  exists_vacancy : ∀ a ∈ l.applications, ∃ v ∈ l.vacancies, a.vacancyId = v.id

lemma isConsistent_empty : empty.IsConsistent := ⟨List.nodup_nil, List.nodup_nil, by simp [empty]⟩

lemma nodup_map_append {α : Type} {f : α → Text} {xs : List α} {x : α} (h : (xs.map f).Nodup)
    (hnew : ∀ y ∈ xs, f y ≠ f x) : ((xs ++ [x]).map f).Nodup := by
  rw [List.map_append, List.nodup_append]
  refine ⟨h, by simp, ?_⟩
  simpa using hnew

/-- An application to a vacancy that is there, under a new id, keeps a ledger consistent. -/
lemma IsConsistent.add_application (hl : l.IsConsistent) {v : Vacancy} {a : Application}
    (hv : v ∈ l.vacancies) (hid : a.vacancyId = v.id) (hnew : ∀ b ∈ l.applications, b.id ≠ a.id) :
    IsConsistent { l with applications := l.applications ++ [a] } := by
  refine ⟨hl.vacancies_nodup, nodup_map_append hl.applications_nodup hnew, fun b hb => ?_⟩
  rcases List.mem_append.1 hb with hb | hb
  · exact hl.exists_vacancy b hb
  · obtain rfl := List.mem_singleton.1 hb
    exact ⟨v, hv, hid⟩

/-- A step keeps a ledger consistent. -/
lemma Step.isConsistent (h : Step setup now l l') (hl : l.IsConsistent) : l'.IsConsistent := by
  cases h with
  | vacancy v hnew =>
    refine ⟨nodup_map_append hl.vacancies_nodup hnew, hl.applications_nodup, fun a ha => ?_⟩
    obtain ⟨w, hw, hid⟩ := hl.exists_vacancy a ha
    exact ⟨w, List.mem_append_left _ hw, hid⟩
  | application v a hv hnew h => exact hl.add_application hv h.vacancyId hnew

lemma Steps.isConsistent (h : Steps setup now l l') (hl : l.IsConsistent) : l'.IsConsistent := by
  induction h with
  | refl => exact hl
  | tail _ hstep ih => exact hstep.isConsistent ih

/-- The applications that steps add are decided at the time of the steps, each by the requirements
of a vacancy of the ledger. -/
lemma Steps.isDecision (h : Steps setup now l l') {a : Application} (ha : a ∈ l'.applications) :
    a ∈ l.applications ∨ ∃ v ∈ l'.vacancies, IsDecision setup now v a := by
  induction h with
  | refl => exact .inl ha
  | tail hsteps hstep ih =>
    cases hstep with
    | vacancy v hnew =>
      rcases ih ha with hold | ⟨w, hw, hdecision⟩
      · exact .inl hold
      · exact .inr ⟨w, List.mem_append_left _ hw, hdecision⟩
    | application v b hv hnew hdecision =>
      rcases List.mem_append.1 ha with hb | hb
      · exact ih hb
      · obtain rfl := List.mem_singleton.1 hb
        exact .inr ⟨v, hv, hdecision⟩

/-! ## Consistent ledgers -/

lemma filter_eq_singleton {α : Type} {f : α → Text} {xs : List α} (h : (xs.map f).Nodup) {x : α}
    (hx : x ∈ xs) : xs.filter (fun y => f y = f x) = [x] := by
  induction xs with
  | nil => cases hx
  | cons y ys ih =>
    rw [List.map_cons, List.nodup_cons] at h
    rcases List.mem_cons.1 hx with rfl | hx
    · have hrest : ys.filter (fun y => f y = f x) = [] := by
        rw [List.filter_eq_nil_iff]
        intro y hy
        have hne : f y ≠ f x := fun heq => h.1 (heq ▸ List.mem_map_of_mem hy)
        simpa using hne
      rw [List.filter_cons_of_pos (by simp), hrest]
    · have hne : f y ≠ f x := fun heq => h.1 (heq ▸ List.mem_map_of_mem hx)
      rw [List.filter_cons_of_neg (by simpa using hne)]
      exact ih h.2 hx

/-- The vacancy of an id is the only one. -/
lemma IsConsistent.filter_vacancies (hl : l.IsConsistent) {v : Vacancy} (hv : v ∈ l.vacancies) :
    l.vacancies.filter (fun w => w.id = v.id) = [v] :=
  filter_eq_singleton hl.vacancies_nodup hv

lemma flatMap_filter_perm {α : Type} {f : α → Text} {ids : List Text} (h : ids.Nodup)
    {xs : List α} (hxs : ∀ x ∈ xs, f x ∈ ids) :
    (ids.flatMap fun id => xs.filter fun x => f x = id).Perm xs := by
  induction ids generalizing xs with
  | nil =>
    obtain rfl : xs = [] := List.eq_nil_iff_forall_not_mem.2 fun x hx => by simpa using hxs x hx
    exact .refl _
  | cons id ids ih =>
    obtain ⟨hid, hids⟩ := List.nodup_cons.1 h
    have hothers : ∀ x ∈ xs.filter (fun x => !decide (f x = id)), f x ∈ ids := by
      intro x hx
      obtain ⟨hx, hne⟩ := List.mem_filter.1 hx
      exact (List.mem_cons.1 (hxs x hx)).resolve_left (by simpa using hne)
    have hrest : (ids.flatMap fun id' => xs.filter fun x => f x = id')
        = ids.flatMap fun id' => (xs.filter fun x => !decide (f x = id)).filter
            fun x => f x = id' := by
      refine congrArg List.flatten (List.map_congr_left fun id' hid' => ?_)
      rw [List.filter_filter]
      refine List.filter_congr fun x _ => ?_
      by_cases hx : f x = id'
      · have hne : id' ≠ id := fun heq => hid (heq ▸ hid')
        simp [hx, hne]
      · simp [hx]
    rw [List.flatMap_cons, hrest]
    exact ((ih hids hothers).append_left _).trans (List.filter_append_perm _ xs)

/-- The applications are those to the vacancies, one vacancy after another. -/
lemma IsConsistent.applications_perm (hl : l.IsConsistent) :
    (l.vacancies.flatMap fun v => l.applications.filter fun a => a.vacancyId = v.id).Perm
      l.applications := by
  have hids : ∀ a ∈ l.applications, a.vacancyId ∈ l.vacancies.map (·.id) := by
    intro a ha
    obtain ⟨v, hv, hid⟩ := hl.exists_vacancy a ha
    exact hid ▸ List.mem_map_of_mem hv
  have h := flatMap_filter_perm hl.vacancies_nodup hids
  rwa [List.flatMap_map] at h

end Ledger

end Shortlist
