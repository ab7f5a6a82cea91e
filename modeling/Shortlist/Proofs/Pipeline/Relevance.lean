import Shortlist.Proofs.Pipeline.Atomicity
import Shortlist.Proofs.Pipeline.Ledger
import Shortlist.Proofs.Pipeline.Request

/-!
# What a decision depends on

A verdict looks at one fact, so a decision looks at the facts that its requirements name and at
nothing else of a candidate.  Two decisions at one time by equal requirements come out alike if the
facts agree there (`IsDecision.alike`).  Nothing is assumed of the sessions in which they are made:
they may hold other records, in another kind of store, and have come about in any way; nor
of the extractors and panels, as long as reasons are joined in the same way.

So two submissions to one vacancy, by whatever applicants and with whatever documents, can only be
told apart by the facts that the vacancy asks for (`Payload.submit_alike`).
-/

namespace Shortlist

open Shortlist.Action (exec)

/-! ## Facts that matter -/

/-- Two records of facts have the same value in every fact that one of the rules reads. -/
def Facts.AgreeOn (rules : List Rule) (facts facts' : Facts) : Prop :=
  ∀ r ∈ rules, facts'.get r.field = facts.get r.field

namespace Facts.AgreeOn

variable {now : Instant} {rules : List Rule} {facts facts' : Facts}

lemma verdict_eq (h : AgreeOn rules facts facts') {r : Rule} (hr : r ∈ rules) :
    r.verdict now facts' = r.verdict now facts := by
  unfold Rule.verdict
  rw [h r hr]

lemma unmetReasons_eq (h : AgreeOn rules facts facts') :
    Rule.unmetReasons now facts' rules = Rule.unmetReasons now facts rules :=
  Rule.unmetReasons_congr fun _ hr => h.verdict_eq hr

end Facts.AgreeOn

section

variable {setup setup' : Setup} {now : Instant} {v w : Vacancy} {a b : Application}

/-- Two decisions at one time by equal requirements come out alike if the facts agree where the
requirements look and reasons are joined in the same way. -/
theorem IsDecision.alike (ha : IsDecision setup now v a) (hb : IsDecision setup' now w b)
    (hrequirements : w.requirements = v.requirements)
    (hseparator : setup'.separator = setup.separator)
    (hfacts : a.facts.AgreeOn v.requirements b.facts) :
    b.status = a.status ∧ b.feedback = a.feedback := by
  have hmet : b.status = .accepted ↔ a.status = .accepted := by
    rw [ha.accepted_iff_met, hb.accepted_iff_met, hrequirements]
    apply forall₂_congr
    intro r hr
    rw [hfacts.verdict_eq hr]
  -- the status decides whether there is a feedback to compare
  by_cases haccepted : a.status = .accepted
  · have hbaccepted : b.status = .accepted := hmet.2 haccepted
    constructor
    · rw [haccepted, hbaccepted]
    · rw [ha.accepted_iff_silent.1 haccepted, hb.accepted_iff_silent.1 hbaccepted]
  · have hrejected := Status.eq_rejected_of_ne haccepted
    have hbrejected := Status.eq_rejected_of_ne (mt hmet.1 haccepted)
    obtain ⟨separator, hjoined, hfeedback⟩ := ha.feedback hrejected
    obtain ⟨separator', hjoined', hfeedback'⟩ := hb.feedback hbrejected
    have hsame : separator' = separator := by
      rw [hseparator, hjoined] at hjoined'
      exact (Option.some.inj hjoined').symm
    constructor
    · rw [hrejected, hbrejected]
    · rw [hfeedback, hfeedback', hsame, hrequirements, hfacts.unmetReasons_eq]

end

/-! ## Submissions -/

namespace Payload

variable {setup setup' : Setup} {now : Instant} {s s' t t' : Session} {payload payload' : Payload}
  {v w : Vacancy} {facts facts' : Facts} {a b : Application}

/-- What is handed in can be read, the vacancy that it names is stored, and the extractor comes back
with facts. -/
def Resolves (setup : Setup) (s : Session) (payload : Payload) (v : Vacancy) (facts : Facts) :
    Prop :=
  ∃ submission, Submission.read payload.value = .accepted submission
    ∧ s.store.vacancies.get? s.files submission.vacancyId.text = .ok (some v)
    ∧ (setup.extractor.run s.asked submission.documents).2 = .ok facts

/-- There is at most one vacancy and one record of facts to decide by. -/
lemma Resolves.unique (h : payload.Resolves setup s v facts)
    (h' : payload.Resolves setup s w facts') : w = v ∧ facts' = facts := by
  obtain ⟨submission, hread, hget, hrun⟩ := h
  obtain ⟨submission', hread', hget', hrun'⟩ := h'
  obtain rfl : submission' = submission := by
    rw [hread] at hread'
    exact (Check.accepted.inj hread').symm
  constructor
  · rw [hget] at hget'
    exact (Option.some.inj (Except.ok.inj hget')).symm
  · rw [hrun] at hrun'
    exact (Except.ok.inj hrun').symm

/-- A submission that goes through had a vacancy and facts, and is the decision by them. -/
lemma exists_resolves_of_submit (h : exec (payload.submit setup now) s = (.ok a, s')) :
    ∃ v facts, payload.Resolves setup s v facts ∧ IsDecision setup now v a ∧ a.facts = facts := by
  rw [payload.submit_eq, Pipeline.submitDocument, Action.exec_bind_eq_ok] at h
  obtain ⟨submission, s₁, hcheck, h⟩ := h
  obtain ⟨hread, rfl⟩ := Pipeline.exec_ofCheck_ok hcheck
  obtain ⟨v, ruling, _, _, rfl, hsettled⟩ := Pipeline.exec_createApplication_ok h
  refine ⟨v, ruling.facts, ⟨submission, hread, hsettled.ruled.vacancy, hsettled.ruled.extracted⟩,
    hsettled.ruled.isDecision, ?_⟩
  rw [Application.facts, hsettled.ruled.documents]
  rfl

/-- Two submissions that go through at one time, in any two sessions, are decided alike if the
vacancies that they name have the same requirements, reasons are joined in the same way, and the
extractors come back with the same values of the facts that the requirements read. -/
theorem submit_alike (ha : exec (payload.submit setup now) s = (.ok a, s'))
    (hb : exec (payload'.submit setup' now) t = (.ok b, t'))
    (hs : payload.Resolves setup s v facts) (ht : payload'.Resolves setup' t w facts')
    (hrequirements : w.requirements = v.requirements)
    (hseparator : setup'.separator = setup.separator)
    (hfacts : facts.AgreeOn v.requirements facts') :
    b.status = a.status ∧ b.feedback = a.feedback := by
  obtain ⟨v', known, hs', hdecision, hknown⟩ := exists_resolves_of_submit ha
  obtain ⟨rfl, rfl⟩ := hs.unique hs'
  obtain ⟨w', known', ht', hdecision', hknown'⟩ := exists_resolves_of_submit hb
  obtain ⟨rfl, rfl⟩ := ht.unique ht'
  apply hdecision.alike hdecision' hrequirements hseparator
  rw [hknown, hknown']
  exact hfacts

end Payload

/-! ## Two applicants of one age -/

/-- The rule that a candidate is older than thirty. -/
def seniorRule : Rule := .numeric ⟨.age, .above, .int 30, by decide +kernel⟩

/-- The posting for analysts who are older than thirty, under an id. -/
def seniorPosting (id : Text) : Vacancy := { analystPosting with id, requirements := [seniorRule] }

/-- Facts of somebody with a degree who is twenty-five. -/
def doctorFacts : Facts := { degree := .text "PhD", age := .int 25 }

/-- The decision on somebody who is twenty-five. -/
lemma ofFacts_seniorRule (now : Instant) {facts : Facts} (hage : facts.age = .int 25) :
    Decision.ofFacts {} now [seniorRule] facts
      = .ok ⟨⟨[⟨seniorRule, .int 25, false⟩]⟩, some "; "⟩ := by
  have hfact : facts.get seniorRule.field = .int 25 := hage
  have hverdict : seniorRule.verdict now facts = .ok false := by
    rw [Rule.verdict, hfact]
    have hbound :
        NumericRule.accepts ⟨.age, .above, .int 30, by decide +kernel⟩ (.int 25) = false := by
      decide +kernel
    exact congrArg Except.ok hbound
  have hevaluate : Panel.standard.evaluate now facts [seniorRule]
      = .ok ⟨[⟨seniorRule, .int 25, false⟩]⟩ :=
    Panel.evaluate_eq_ok.2 (.cons ⟨rfl, hfact.symm, hverdict⟩ .nil)
  rw [Decision.ofFacts, hevaluate]
  rfl

namespace Payload

/-- An application of somebody who is twenty-five is decided on, with any contained trail. -/
lemma submit_senior (now : Instant) {audit : AuditTrail} (hcontained : audit.IsContained)
    (submission : Submission) (facts : Facts)
    (hfacts : submission.documents.facts.getD .usual = facts) (hage : facts.age = .int 25) :
    let s := { Session.withVacancy (seniorPosting submission.vacancyId.text) with audit }
    (Payload.submission submission).Resolves {} s (seniorPosting submission.vacancyId.text) facts
      ∧ ∃ a s', exec ((Payload.submission submission).submit {} now) s = (.ok a, s') := by
  intro s
  have hget : s.store.vacancies.get? s.files submission.vacancyId.text
      = .ok (some (seniorPosting submission.vacancyId.text)) :=
    Session.get?_withVacancy (seniorPosting submission.vacancyId.text)
  have hextracted :
      ((Extractor.standard .usual).run s.asked submission.documents).2 = .ok facts := by
    rw [Extractor.run_standard, hfacts]
  refine ⟨⟨submission, submission.read_toValue, hget, hextracted⟩, ?_⟩
  have hinsert (a : Application) := Session.insert_withVacancy
    (seniorPosting submission.vacancyId.text) a
  obtain ⟨record, events, hcreate⟩ :=
    Pipeline.exec_createApplication_of_decision (s := s) hcontained {} submission.applicantId
      submission.documents hget hextracted
      (ofFacts_seniorRule now hage) rfl (hinsert _)
  exact ⟨_, _, hcreate⟩

theorem submit_alike_senior :
    let ada : Payload := .submission ⟨some "ada", ⟨"v", by decide⟩, {}⟩
    let ben : Payload := .submission ⟨none, ⟨"w", by decide⟩, { facts := some doctorFacts }⟩
    let s := { Session.withVacancy (seniorPosting "v") with audit := .off }
    let t := { Session.withVacancy (seniorPosting "w") with
      audit := .file ⟨"/", ["audit.jsonl"]⟩ }
    ∃ a s' b t', exec (ada.submit {} Pipeline.analystDay) s = (.ok a, s')
      ∧ exec (ben.submit {} Pipeline.analystDay) t = (.ok b, t')
      ∧ b.status = a.status ∧ b.feedback = a.feedback := by
  intro ada ben s t
  obtain ⟨hs, a, s', ha⟩ := submit_senior Pipeline.analystDay AuditTrail.isContained_off
    ⟨some "ada", ⟨"v", by decide⟩, {}⟩
    .usual rfl rfl
  obtain ⟨ht, b, t', hb⟩ := submit_senior Pipeline.analystDay (AuditTrail.isContained_file _)
    ⟨none, ⟨"w", by decide⟩, { facts := some doctorFacts }⟩ doctorFacts rfl rfl
  have hagree : Facts.usual.AgreeOn [seniorRule] doctorFacts := by
    intro r hr
    rw [List.mem_singleton.1 hr]
    rfl
  exact ⟨a, s', b, t', ha, hb, submit_alike ha hb hs ht rfl rfl hagree⟩

end Payload

end Shortlist
