import Shortlist.Proofs.Batch.Facade
import Shortlist.Proofs.Batch.Output
import Shortlist.Proofs.Pipeline.Consistency
import Shortlist.Proofs.Pipeline.Request
import Shortlist.Proofs.Screening.Judgeable

/-!
# What becomes of an entry

With the standard extractor the decision on an entry rests on nothing but the vacancy, the facts of
the entry, and the time (`Pipeline.IsResult`); the id of the application is all that the session
adds.  There is such a decision exactly if every requirement can be judged by the facts
(`exists_isResult_iff`).

A session is ready for a number of entries if its store is in memory and holds the vacancy, the ids
that it draws next are new, and there is room for the output (`Session.IsReady`).  Each decision
takes one of the ids and leaves the session ready for the others
(`Session.IsReady.exec_createApplication`), so by induction all entries are decided on as if each
were the only one.  Decisions break off over an entry that has no result or one that cannot be
reduced, and otherwise only if something escapes from the audit trail
(`Pipeline.isEscape_of_decideEntries`).
-/

namespace Shortlist

open Shortlist.Action (exec exec_bind_ok exec_bind_eq_error)

/-- A setup with the standard extractor, with a separator for the reasons, and with ids that are
drawn. -/
structure Setup.IsStandard (setup : Setup) (defaults : Facts) : Prop where
  extractor : setup.extractor = .standard defaults
  separator : setup.separator ≠ none
  applicationIds : setup.applicationIds = .drawn

/-- The facts on which an entry is decided: those that it brings, or else the defaults. -/
def BatchEntry.factsOr (entry : BatchEntry) (defaults : Facts) : Facts :=
  entry.documents.facts.getD defaults

/-! ## Results -/

namespace Pipeline

variable {setup : Setup} {now : Instant} {defaults : Facts} {v : Vacancy} {entry : BatchEntry}
  {a b : Application}

/-- An application is the result of an entry: the decision of a vacancy on its facts, under some
id. -/
def IsResult (setup : Setup) (now : Instant) (defaults : Facts) (v : Vacancy) (entry : BatchEntry)
    (a : Application) : Prop :=
  ∃ (id : String) (decision : Decision) (feedback : Option Text),
    Decision.ofFacts setup now v.requirements (entry.factsOr defaults) = .ok decision
      ∧ decision.feedback = .ok feedback
      ∧ a = OpenSubmission.decided ⟨v, entry.applicantId, entry.documents⟩ now id
          (entry.factsOr defaults) decision feedback

/-- An entry has one result, under whatever id. -/
lemma IsResult.eq_withId (ha : IsResult setup now defaults v entry a)
    (hb : IsResult setup now defaults v entry b) : ∃ id : String, b = { a with id } := by
  obtain ⟨-, decision, feedback, hdecision, hfeedback, rfl⟩ := ha
  obtain ⟨id, decision', feedback', hdecision', hfeedback', rfl⟩ := hb
  cases hdecision.symm.trans hdecision'
  cases hfeedback.symm.trans hfeedback'
  exact ⟨id, rfl⟩

/-- If one result of an entry can be shown, each can. -/
lemma IsResult.isShowable (ha : IsResult setup now defaults v entry a)
    (hb : IsResult setup now defaults v entry b) (hshown : a.IsShowable) : b.IsShowable := by
  obtain ⟨id, rfl⟩ := ha.eq_withId hb
  exact hshown.withId id

lemma exists_ofFacts (setup : Setup) {rules : List Rule} {facts : Facts} :
    (∃ decision, Decision.ofFacts setup now rules facts = .ok decision)
      ↔ ∀ r ∈ rules, r.CanJudge now (facts.get r.field) := by
  rw [← setup.panel.exists_evaluate]
  exact Except.exists_map_eq_ok

/-- With a separator the reasons can be joined. -/
lemma exists_feedback {rules : List Rule} {facts : Facts} {decision : Decision}
    (hseparator : setup.separator ≠ none)
    (hdecision : Decision.ofFacts setup now rules facts = .ok decision) :
    ∃ feedback, decision.feedback = .ok feedback := by
  obtain ⟨e, -, rfl⟩ := Except.map_eq_ok.1 hdecision
  obtain ⟨separator, hsome⟩ := Option.ne_none_iff_exists'.1 hseparator
  rw [Decision.feedback, hsome]
  split <;> exact ⟨_, rfl⟩

/-- An entry has a result exactly if every requirement can be judged by its facts. -/
theorem exists_isResult_iff (hsetup : setup.IsStandard defaults) :
    (∃ a, IsResult setup now defaults v entry a)
      ↔ ∀ r ∈ v.requirements, r.CanJudge now ((entry.factsOr defaults).get r.field) := by
  rw [← exists_ofFacts setup]
  constructor
  · rintro ⟨a, id, decision, feedback, hdecision, -⟩
    exact ⟨decision, hdecision⟩
  · rintro ⟨decision, hdecision⟩
    obtain ⟨feedback, hfeedback⟩ := exists_feedback hsetup.separator hdecision
    exact ⟨_, "", decision, feedback, hdecision, hfeedback, rfl⟩

/-- An entry has a result that can be shown exactly if every requirement can be judged by its facts
and whatever its result is can be shown. -/
lemma exists_isShowable_iff (hsetup : setup.IsStandard defaults) :
    (∃ a, IsResult setup now defaults v entry a ∧ a.IsShowable)
      ↔ (∀ r ∈ v.requirements, r.CanJudge now ((entry.factsOr defaults).get r.field))
        ∧ ∀ a, IsResult setup now defaults v entry a → a.IsShowable := by
  rw [← exists_isResult_iff hsetup]
  constructor
  · rintro ⟨a, ha, hshown⟩
    exact ⟨⟨a, ha⟩, fun b hb => ha.isShowable hb hshown⟩
  · rintro ⟨⟨a, ha⟩, hshown⟩
    exact ⟨a, ha, hshown a ha⟩

end Pipeline

/-! ## Ids that are new -/

namespace IdSource

variable {ids : IdSource} {l : Ledger} {n m : Nat}

/-- The ids of the applications in a ledger and the next ones that are drawn are all distinct. -/
def IsFreshFor (ids : IdSource) (n : Nat) (l : Ledger) : Prop :=
  (l.applications.map (·.id) ++ (ids.freshMany "app" n).1.map Text.ofString).Nodup

lemma IsFreshFor.new (h : ids.IsFreshFor (n + 1) l) :
    ∀ b ∈ l.applications, b.id ≠ (ids.fresh "app").1 := by
  intro b hb
  exact (List.nodup_append.1 h).2.2 b.id (List.mem_map_of_mem hb) _ List.mem_cons_self

/-- The ids after the next one are new when it has been used. -/
theorem IsFreshFor.next {a : Application} (h : ids.IsFreshFor (n + 1) l)
    (ha : a.id = (ids.fresh "app").1) :
    (ids.fresh "app").2.IsFreshFor n { l with applications := l.applications ++ [a] } := by
  rw [IsFreshFor, List.map_append, List.map_singleton, ha, List.append_assoc]
  exact h

lemma freshMany_sublist (hm : m ≤ n) :
    (ids.freshMany "app" m).1.Sublist (ids.freshMany "app" n).1 := by
  induction n generalizing m ids with
  | zero =>
    obtain rfl := Nat.le_zero.1 hm
    exact .refl _
  | succ n ih =>
    cases m with
    | zero => exact List.nil_sublist _
    | succ m => exact (ih (Nat.le_of_succ_le_succ hm)).cons_cons _

lemma IsFreshFor.mono (h : ids.IsFreshFor n l) (hm : m ≤ n) : ids.IsFreshFor m l :=
  h.sublist ((List.Sublist.refl _).append ((freshMany_sublist hm).map _))

end IdSource

/-! ## Sessions that are ready -/

/-- A session in which a batch can decide on so many entries: its store is in memory and holds the
vacancy, the ids are new, and there is room for the output. -/
structure Session.IsReady (s : Session) (v : Vacancy) (output : Path) (n : Nat) : Prop where
  holds : ∃ l, s.Holds l ∧ l.vacancies.find? (fun w => w.id = v.id) = some v ∧ s.ids.IsFreshFor n l
  output : s.files.Accommodates output

namespace Session.IsReady

open Pipeline

variable {setup : Setup} {now : Instant} {defaults : Facts} {v : Vacancy} {output : Path}
  {entry : BatchEntry} {a : Application} {s s' : Session} {n : Nat}

lemma of_matches (h : s.IsReady v output n) (hmatches : s.Matches s') : s'.IsReady v output n := by
  obtain ⟨events, rfl⟩ := hmatches
  obtain ⟨l, hl, hv⟩ := h.holds
  exact ⟨⟨l, hl.of_store_eq rfl, hv⟩, h.output⟩

lemma mono (h : s.IsReady v output n) {m : Nat} (hm : m ≤ n) : s.IsReady v output m := by
  obtain ⟨l, hl, hv, hids⟩ := h.holds
  exact ⟨⟨l, hl, hv, hids.mono hm⟩, h.output⟩

/-- In a session that is ready, an entry that has a result gets it, and the session is ready for one
entry less.  The result comes back unless something escapes from the audit trail. -/
theorem exec_createApplication (h : s.IsReady v output (n + 1)) (hsetup : setup.IsStandard defaults)
    (hresult : IsResult setup now defaults v entry a) :
    ∃ b record s', exec (createApplication setup now v.id entry.applicantId entry.documents) s
        = (AuditTrail.goOn b (s.audit.append s.files record).2.2, s')
      ∧ IsResult setup now defaults v entry b ∧ s'.IsReady v output n := by
  obtain ⟨-, decision, feedback, hdecision, hfeedback, -⟩ := hresult
  obtain ⟨l, hl, hv, hids⟩ := h.holds
  -- every part of the action is known beforehand: the id, the vacancy, the facts and the insertion
  have hnext : setup.applicationIds.next s.ids = s.ids.fresh "app" := by
    rw [hsetup.applicationIds]
    rfl
  have hget : s.store.vacancies.get? s.files v.id = .ok (some v) := by
    rw [hl.get?_eq, hv]
  have hfacts : (setup.extractor.run s.asked entry.documents).2 = .ok (entry.factsOr defaults) := by
    rw [hsetup.extractor]
    exact Extractor.run_standard _ _ _
  obtain ⟨applications, hinsert⟩ := hl.exists_insert_application
    (a := OpenSubmission.decided ⟨v, entry.applicantId, entry.documents⟩ now (s.ids.fresh "app").1
      (entry.factsOr defaults) decision feedback) hids.new
  rw [← hnext] at hinsert
  have hcreate := exec_createApplication_settled setup _ _ hget hfacts hdecision hfeedback hinsert
  obtain ⟨-, -, hheld⟩ := hl.of_insert_application hinsert
  have houtput (record : AuditRecord) :
      (s.audit.append s.files record).2.1.Accommodates output :=
    AuditTrail.append_preserves (P := (Tree.Accommodates · output))
      (fun _ _ _ _ _ hroom hwrite => hroom.of_write hwrite) h.output _
  rw [hnext] at hcreate hheld
  exact ⟨_, _, _, hcreate, ⟨_, decision, feedback, hdecision, hfeedback, rfl⟩,
    ⟨_, hheld _ rfl, hv, hids.next rfl⟩, houtput _⟩

/-- An entry on which a ruling is made in a session that is ready has a result. -/
lemma exists_isResult (h : s.IsReady v output n) (hsetup : setup.IsStandard defaults) {w : Vacancy}
    {ruling : Ruling}
    (hruling : IsRuling setup now s v.id entry.applicantId entry.documents w ruling) :
    ∃ a, IsResult setup now defaults v entry a := by
  obtain ⟨l, hl, hv, -⟩ := h.holds
  have hw : w = v := by
    have hget := hruling.vacancy
    rw [hl.get?_eq, hv] at hget
    cases hget
    rfl
  have hfacts : ruling.facts = entry.factsOr defaults := by
    have hextracted := hruling.extracted
    rw [hsetup.extractor, Extractor.run_standard] at hextracted
    exact (Except.ok.inj hextracted).symm
  have hdecision : Decision.ofFacts setup now v.requirements (entry.factsOr defaults)
      = .ok ⟨ruling.evaluation, setup.separator⟩ := by
    rw [← hw, ← hfacts]
    exact Except.map_eq_ok.2 ⟨_, hruling.evaluated, rfl⟩
  exact ⟨_, "", _, _, hdecision, hruling.feedback, rfl⟩

/-- What comes back from a submission in a session that is ready is the result of the entry, and the
session is ready for one entry less. -/
lemma isResult (h : s.IsReady v output (n + 1)) (hsetup : setup.IsStandard defaults)
    (hcreate : exec (createApplication setup now v.id entry.applicantId entry.documents) s
      = (.ok a, s')) :
    IsResult setup now defaults v entry a ∧ s'.IsReady v output n := by
  obtain ⟨w, ruling, _, _, -, hsettled⟩ := exec_createApplication_ok hcreate
  obtain ⟨_, hexists⟩ := h.exists_isResult hsetup hsettled.ruled
  obtain ⟨b, record, s₁, hcreate', hresult, hready⟩ := h.exec_createApplication hsetup hexists
  obtain ⟨hgoes, rfl⟩ := Prod.mk.inj (hcreate'.symm.trans hcreate)
  obtain rfl := AuditTrail.eq_of_goOn_eq_ok hgoes
  exact ⟨hresult, hready⟩

end Session.IsReady

/-! ## All entries -/

namespace Pipeline

variable {setup : Setup} {now : Instant} {defaults : Facts} {v : Vacancy} {output : Path}
  {number n : Nat} {ls : List ValidLine} {results : List Application}
  {mismatches : List BatchError} {fault : Fault} {s s' : Session}

/-- The results of a batch are those of the lines that it decides on, and each of them uses up one
id. -/
lemma Decides.forall₂_isResult
    (h : Decides setup now v.id number (ls.map (·.entry)) s results mismatches s')
    (hsetup : setup.IsStandard defaults)
    (hready : s.IsReady v output ((ls.filter (·.joins v.id)).length + n)) :
    List.Forall₂ (fun l a => IsResult setup now defaults v l.entry a) (ls.filter (·.joins v.id))
      results
      ∧ s'.IsReady v output n := by
  induction ls generalizing number s results mismatches with
  | nil =>
    cases h with
    | nil => exact ⟨.nil, by simpa using hready⟩
  | cons l rest ih =>
    cases h with
    | mismatch hother hne hreport hrest =>
      have hleft := ValidLine.not_joins_iff.2 ⟨_, hother, hne⟩
      rw [List.filter_cons, if_neg hleft] at hready ⊢
      exact ih hrest (hready.of_matches hreport)
    | application hjoins hcreate hreducible hrest =>
      have htaken : l.joins v.id = true := ValidLine.joins_iff.2 hjoins
      rw [List.filter_cons, if_pos htaken] at hready ⊢
      rw [List.length_cons, Nat.add_right_comm] at hready
      obtain ⟨hresult, hready'⟩ := hready.isResult hsetup hcreate
      obtain ⟨hresults, hleft⟩ := ih hrest hready'
      exact ⟨.cons hresult hresults, hleft⟩

/-- Decisions that break off do so over one of the lines that are decided on, when the session is
ready for it: no application comes back, or it is a result that cannot be reduced. -/
lemma exists_of_decideEntries_error (hsetup : setup.IsStandard defaults)
    (hready : s.IsReady v output (ls.filter (·.joins v.id)).length)
    (h : exec (decideEntries setup now v.id number (ls.map (·.entry))) s = (.error fault, s')) :
    ∃ l ∈ ls.filter (·.joins v.id),
      (∃ n s₁ s₂, s₁.IsReady v output (n + 1)
        ∧ exec (createApplication setup now v.id l.entry.applicantId l.entry.documents) s₁
          = (.error fault, s₂))
      ∨ ∃ a plainFault, fault = .irreducible plainFault ∧ IsResult setup now defaults v l.entry a
        ∧ a.toValue.plainFault? false Application.levels = some plainFault := by
  obtain ⟨before, entry, after, results, mismatches, s₁, hsplit, hjoins, hbefore, hfails⟩ :=
    exec_decideEntries_error h
  obtain ⟨earlier, rest, rfl, rfl, hrest⟩ := List.map_eq_append_iff.1 hsplit
  obtain ⟨l, later, rfl, rfl, -⟩ := List.map_eq_cons_iff.1 hrest
  have htaken : l.joins v.id = true := ValidLine.joins_iff.2 hjoins
  have hcount : ((earlier ++ l :: later).filter (·.joins v.id)).length
      = (earlier.filter (·.joins v.id)).length + ((later.filter (·.joins v.id)).length + 1) := by
    rw [List.filter_append, List.length_append, List.filter_cons, if_pos htaken, List.length_cons]
  rw [hcount] at hready
  obtain ⟨-, hready₁⟩ := (decides_of_exec hbefore).forall₂_isResult hsetup hready
  refine ⟨l, by simp [htaken], ?_⟩
  rcases exec_checked_error hfails with hcreate | ⟨a, plainFault, rfl, hfault, hcreate⟩
  · exact .inl ⟨_, s₁, s', hready₁, hcreate⟩
  · exact .inr ⟨a, plainFault, rfl, (hready₁.isResult hsetup hcreate).1, hfault⟩

/-- If each of the lines that a batch decides on has a result that can be reduced, the decisions
come back unless something escapes from the audit trail. -/
lemma isEscape_of_decideEntries (hsetup : setup.IsStandard defaults)
    (hready : s.IsReady v output (ls.filter (·.joins v.id)).length)
    (hresult : ∀ l ∈ ls.filter (·.joins v.id), ∃ a, IsResult setup now defaults v l.entry a)
    (hreducible : ∀ l ∈ ls.filter (·.joins v.id), ∀ a, IsResult setup now defaults v l.entry a →
      a.toValue.plainFault? false Application.levels = none)
    (h : exec (decideEntries setup now v.id number (ls.map (·.entry))) s = (.error fault, s')) :
    fault.IsEscape := by
  obtain ⟨l, hl, ⟨n, s₁, s₂, hready₁, hcreate⟩ | ⟨a, plainFault, -, ha, hfault⟩⟩ :=
    exists_of_decideEntries_error hsetup hready h
  · obtain ⟨a, ha⟩ := hresult l hl
    obtain ⟨b, record, s₃, hcreate', -⟩ := hready₁.exec_createApplication hsetup ha
    obtain ⟨hbroke, -⟩ := Prod.mk.inj (hcreate'.symm.trans hcreate)
    obtain ⟨raised, hraised, -⟩ := escapes_of_goOn hbroke
    exact ⟨raised, hraised⟩
  · cases (hreducible l hl a ha).symm.trans hfault

end Pipeline

end Shortlist
