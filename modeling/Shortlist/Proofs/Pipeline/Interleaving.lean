import Mathlib.Data.List.ReduceOption
import Shortlist.Proofs.Pipeline.Waiting

/-!
# Interleaved submissions

Submissions that wait take turns in one session, in any order.  After every schedule the store is as
consistent as it is after calls that do not wait, and each submission that has come back has been
decided on by the vacancy that it names, as if it were alone (`World.run_interleaved`).

The invariant that carries this is `World.IsSound`: the session holds a consistent ledger, every
submission is about what was handed in, and what it has added is in the ledger.  One turn preserves
it (`World.IsSound.next`), whichever submission it is for, and the ledger only grows; so every
schedule does.

A submission whose application has been added comes back with it, unless something escapes from the
audit trail, which is asked after that.  So the applications that are stored are not quite those
that submissions have come back with (`Progress.HasAdded`); with a contained trail they are.
-/

namespace Shortlist

open Shortlist.Action (exec exec_bind_ok exec_bind_eq_ok)

namespace World

variable {setup : Setup} {now : Instant} {w : World} {turn : Turn} {turns : List Turn} {i : Nat}
  {opened : OpenSubmission} {payload : Payload} {a : Application}

/-! ## What every turn preserves -/

/-- A world whose session holds a consistent ledger with the applications that the submissions have
added, and in which everything that waits has been looked up as it is. -/
structure IsSound (payloads : List Payload) (w : World) (l : Ledger)
    (added : List (Option Application)) : Prop where
  holds : w.session.Holds l
  consistent : l.IsConsistent
  adds : List.Forall₂ Progress.HasAdded w.submissions added
  perm : l.applications.Perm added.reduceOption
  follows : ∀ (i : Nat) (progress : Progress), w.submissions[i]? = some progress →
    ∃ payload, payloads[i]? = some payload ∧ progress.Follows w.session payload

lemma forall₂_set {α β : Type} {R : α → β → Prop} {xs : List α} {ys : List β} {x : α} {y : β}
    (h : List.Forall₂ R xs ys) (hxy : R x y) (i : Nat) :
    List.Forall₂ R (xs.set i x) (ys.set i y) := by
  induction h generalizing i with
  | nil => exact .nil
  | cons hhead htail ih =>
    cases i with
    | zero => exact .cons hxy htail
    | succ i => exact .cons hhead (ih i)

lemma exists_getElem?_of_forall₂ {α β : Type} {R : α → β → Prop} {xs : List α} {ys : List β} {x : α}
    {i : Nat} (h : List.Forall₂ R xs ys) (hx : xs[i]? = some x) : ∃ y, ys[i]? = some y ∧ R x y := by
  induction h generalizing i with
  | nil => cases hx
  | cons hhead htail ih =>
    cases i with
    | zero =>
      cases hx
      exact ⟨_, rfl, hhead⟩
    | succ i => exact ih hx

/-- What stands in a list after one of its places has been set. -/
lemma getElem?_set_eq_some {α : Type} {xs : List α} {x y : α} {i j : Nat}
    (h : (xs.set i x)[j]? = some y) : (j = i ∧ x = y) ∨ xs[j]? = some y := by
  rw [List.getElem?_set] at h
  split at h
  · rename_i hij
    split at h
    · exact .inl ⟨hij.symm, Option.some.inj h⟩
    · cases h
  · exact .inr h

/-- Something is put into a place that was empty. -/
lemma reduceOption_set_perm {α : Type} {xs : List (Option α)} {i : Nat} (h : xs[i]? = some none)
    (y : Option α) : (xs.set i y).reduceOption.Perm (xs.reduceOption ++ y.toList) := by
  obtain ⟨hi, hempty⟩ := List.getElem?_eq_some_iff.1 h
  obtain ⟨before, after, hsplit, -, hset⟩ :
      ∃ before after, xs = before ++ xs[i] :: after ∧ before.length = i
        ∧ xs.set i y = before ++ y :: after := List.exists_of_set hi
  have hold : xs.reduceOption = before.reduceOption ++ after.reduceOption := by
    rw [hsplit, hempty, List.reduceOption_append, List.reduceOption_cons_of_none]
  have hnew : (xs.set i y).reduceOption
      = before.reduceOption ++ (y.toList ++ after.reduceOption) := by
    rw [hset, List.reduceOption_append]
    cases y <;> simp
  rw [hold, hnew, List.append_assoc]
  exact List.perm_append_comm.append_left _

variable {payloads : List Payload} {l l' : Ledger} {added : List (Option Application)}

/-- A submission that is ready or waits has added nothing yet. -/
lemma IsSound.added_eq_none {progress : Progress} (h : w.IsSound payloads l added)
    (hprogress : w.submissions[i]? = some progress)
    (hopen : ∀ gained, progress.HasAdded gained → gained = none) : added[i]? = some none := by
  obtain ⟨gained, hgained, hadds⟩ := exists_getElem?_of_forall₂ h.adds hprogress
  rw [hgained, hopen gained hadds]

/-- A world stays sound when a submission gets on, if what it adds is in the ledger. -/
lemma IsSound.advance {α : Type} {action : Action α} {next : α → Progress} {progress : Progress}
    {gained : Option Application} (h : w.IsSound payloads l added)
    (hprogress : w.submissions[i]? = some progress)
    (hopen : ∀ gained, progress.HasAdded gained → gained = none)
    (hholds : (w.advance i action next).session.Holds l') (hgrows : l.Grows l')
    (hconsistent : l'.IsConsistent)
    (hadds : (Progress.ofOutcome next (exec action w.session).1).HasAdded gained)
    (hgained : l'.applications = l.applications ++ gained.toList)
    (hfollows : ∀ payload, payloads[i]? = some payload → progress.Follows w.session payload →
      (Progress.ofOutcome next (exec action w.session).1).Follows (w.advance i action next).session
        payload) :
    (w.advance i action next).IsSound payloads l' (added.set i gained) where
  holds := hholds
  consistent := hconsistent
  adds := forall₂_set h.adds hadds i
  perm := by
    rw [hgained]
    exact (h.perm.append_right _).trans
      (reduceOption_set_perm (h.added_eq_none hprogress hopen) gained).symm
  follows j progress' hprogress' := by
    by_cases hji : j = i
    · subst hji
      rw [getElem?_advance hprogress, Option.some.injEq] at hprogress'
      subst hprogress'
      obtain ⟨payload, hpayload, hfollowed⟩ := h.follows j progress hprogress
      exact ⟨payload, hpayload, hfollows payload hpayload hfollowed⟩
    · rw [getElem?_advance_ne hji] at hprogress'
      obtain ⟨payload, hpayload, hfollowed⟩ := h.follows j progress' hprogress'
      exact ⟨payload, hpayload, hfollowed.of_grows h.holds hholds hgrows⟩

/-- A world stays sound when a vacancy is registered. -/
lemma IsSound.register {action : Action Vacancy} (h : w.IsSound payloads l added)
    (hextends : action.Extends setup now)
    (hkeeps : (exec action w.session).2.store.applications = w.session.store.applications) :
    ∃ l', World.IsSound payloads { w with session := (exec action w.session).2 } l' added
      ∧ l.Grows l' := by
  obtain ⟨l', hl', hsteps⟩ := hextends w.session l h.holds
  have happlications : l'.applications = l.applications := by
    obtain ⟨_, held, hstore, -, -, rfl⟩ := h.holds
    obtain ⟨_, held', hstore', -, -, rfl⟩ := hl'
    rw [hstore, hstore'] at hkeeps
    exact congrArg MemoryCollection.records (Collection.memory.inj hkeeps)
  refine ⟨l', ⟨hl', hsteps.isConsistent h.consistent, h.adds, ?_, fun i progress hprogress => ?_⟩,
    hsteps.grows⟩
  · rw [happlications]
    exact h.perm
  · obtain ⟨payload, hpayload, hfollowed⟩ := h.follows i progress hprogress
    exact ⟨payload, hpayload, hfollowed.of_grows h.holds hl' hsteps.grows⟩

/-- A world stays sound when a submission goes as far as its wait, and nothing is added. -/
theorem IsSound.start (h : w.IsSound payloads l added)
    (hready : w.submissions[i]? = some (.ready payload)) :
    (w.advance i (payload.start setup) .waiting).IsSound payloads l (added.set i none) := by
  have hholds : (w.advance i (payload.start setup) .waiting).session.Holds l :=
    h.holds.of_store_eq (payload.isQuiet_start setup w.session).store
  refine h.advance hready (fun _ => id) hholds (.refl l) h.consistent ?_
    (List.append_nil _).symm fun payload' _ hfollowed => ?_
  · rcases hstart : exec (payload.start setup) w.session with ⟨fault | opened, s⟩
    · exact Progress.hasAdded_of_not_isEscape (Payload.not_isEscape_of_start hstart)
    · exact rfl
  · obtain rfl : payload = payload' := hfollowed
    cases houtcome : (exec (payload.start setup) w.session).1 with
    | error fault => trivial
    | ok opened =>
      obtain ⟨hopens, -⟩ := Payload.exec_start_ok (Prod.ext houtcome rfl)
      exact hopens.of_grows h.holds hholds (.refl l)

/-- A world stays sound when the wait of a submission ends.  Whatever is added answers it. -/
lemma IsSound.finish {extracted : List Event × Except ExtractionFault Facts}
    (h : w.IsSound payloads l added) (hwaiting : w.submissions[i]? = some (.waiting opened)) :
    ∃ l' gained,
      (w.advance i (Pipeline.decide setup now opened extracted) .returned).IsSound payloads
        l' (added.set i gained)
      ∧ l.Grows l' ∧ ∀ a, gained = some a → ∃ payload, payloads[i]? = some payload
        ∧ w.Answers setup (.finish now i extracted) i payload a := by
  have hfollows {outcome : Except Fault Application} {s : Session} {payload : Payload} :
      (Progress.ofOutcome .returned outcome).Follows s payload := by
    cases outcome <;> trivial
  rcases Pipeline.exec_decide_cases setup now opened extracted w.session with
    ⟨fault, s', hdecide, hnot, hstore⟩ | ⟨a, outcome, s', hdecide, hadds⟩
  · have hstore' : (exec (Pipeline.decide setup now opened extracted) w.session).2.store
        = w.session.store := by rw [hdecide, hstore]
    refine ⟨l, none, h.advance hwaiting (fun _ => id) (h.holds.of_store_eq hstore') (.refl l)
      h.consistent ?_ (List.append_nil _).symm fun _ _ _ => hfollows, .refl l, nofun⟩
    rw [hdecide]
    exact Progress.hasAdded_of_not_isEscape hnot
  · obtain ⟨facts, decision, feedback, hfacts, hdecision, hfeedback, ha⟩ := hadds.decided
    obtain ⟨applications, files, hinsert, hstore⟩ := hadds.inserted
    obtain ⟨-, hnew, hheld⟩ := h.holds.of_insert_application hinsert
    obtain ⟨payload, hpayload, hopens⟩ := h.follows i _ hwaiting
    -- what was looked up before the wait is still there, as the ledger only grows
    have hv : opened.vacancy ∈ l.vacancies := Payload.Opens.mem hopens h.holds
    have hid : a.vacancyId = opened.vacancy.id := by rw [ha]; rfl
    have hgrows : l.Grows { l with applications := l.applications ++ [a] } :=
      ⟨List.prefix_rfl, List.prefix_append _ _⟩
    have hholds : (w.advance i (Pipeline.decide setup now opened extracted) .returned).session.Holds
        { l with applications := l.applications ++ [a] } := by
      rw [World.advance, hdecide]
      exact hheld _ hstore
    refine ⟨_, some a, h.advance hwaiting (fun _ => id) hholds hgrows
      (h.consistent.add_application hv hid hnew) ?_ rfl fun _ _ _ => hfollows, hgrows, ?_⟩
    · rw [hdecide]
      exact Progress.hasAdded_of_adds hadds
    · rintro _ ⟨⟩
      obtain ⟨events, found⟩ := extracted
      obtain rfl : found = .ok facts := hfacts
      refine ⟨payload, hpayload, now, events, facts, opened, _, _, rfl, hwaiting, hopens, hid,
        h.holds.lists, ?_, ?_⟩
      · rw [next_finish hwaiting]
        exact hholds.lists
      · rw [ha]
        exact Payload.Opens.isDecidedAlone hopens h.holds a.id hdecision hfeedback

/-- Every turn keeps a world sound, nothing leaves its ledger, and the turn answers a submission for
which it adds an application. -/
theorem IsSound.next (h : w.IsSound payloads l added) (setup : Setup) (turn : Turn) :
    ∃ l' added', (w.next setup turn).IsSound payloads l' added' ∧ l.Grows l'
      ∧ ∀ (i : Nat) (a : Application), added'[i]? = some (some a) → added[i]? = some (some a)
        ∨ ∃ payload, payloads[i]? = some payload ∧ w.Answers setup turn i payload a := by
  cases turn with
  | createVacancy now document =>
    have hextends : (Pipeline.createVacancy now document).Extends setup now :=
      Pipeline.extends_createVacancy document
    obtain ⟨l', h', hgrows⟩ :=
      h.register hextends (Pipeline.kept_createVacancy now document w.session).1
    exact ⟨l', added, h', hgrows, fun _ _ => .inl⟩
  | registerVacancy now draft =>
    have hextends : (Pipeline.registerVacancy now draft).Extends setup now :=
      Pipeline.extends_registerVacancy draft
    obtain ⟨l', h', hgrows⟩ :=
      h.register hextends (Pipeline.kept_registerVacancy now draft w.session).1
    exact ⟨l', added, h', hgrows, fun _ _ => .inl⟩
  | start i =>
    rw [World.next]
    split
    · rename_i payload hready
      refine ⟨l, _, h.start hready, .refl l, fun j a hadded => .inl ?_⟩
      rcases getElem?_set_eq_some hadded with ⟨-, ⟨⟩⟩ | hbefore
      exact hbefore
    · exact ⟨l, added, h, .refl l, fun _ _ => .inl⟩
  | finish now i extracted =>
    by_cases hwaits : ∃ opened, w.submissions[i]? = some (.waiting opened)
    · obtain ⟨opened, hwaiting⟩ := hwaits
      obtain ⟨l', gained, h', hgrows, hanswers⟩ := h.finish hwaiting
      rw [next_finish hwaiting]
      refine ⟨l', _, h', hgrows, fun j a hadded => ?_⟩
      rcases getElem?_set_eq_some hadded with ⟨rfl, hgained⟩ | hbefore
      · exact .inr (hanswers a hgained)
      · exact .inl hbefore
    -- nobody is waiting, so the turn does nothing
    · refine ⟨l, added, ?_, .refl l, fun _ _ => .inl⟩
      rw [World.next]
      split
      · exact absurd ⟨_, ‹_›⟩ hwaits
      · exact h

/-- Every schedule keeps a world sound, nothing leaves its ledger, and every application that is
added answers its submission. -/
lemma IsSound.run (h : w.IsSound payloads l added) (setup : Setup) (turns : List Turn) :
    ∃ l' added', (w.run setup turns).IsSound payloads l' added' ∧ l.Grows l'
      ∧ ∀ (i : Nat) (a : Application), added'[i]? = some (some a) → added[i]? = some (some a)
        ∨ ∃ payload, payloads[i]? = some payload ∧ w.IsAnswered setup turns i payload a := by
  induction turns using List.reverseRecOn with
  | nil => exact ⟨l, added, h, .refl l, fun _ _ => .inl⟩
  | append_singleton turns turn ih =>
    obtain ⟨l₁, added₁, h₁, hgrows₁, hanswered₁⟩ := ih
    obtain ⟨l₂, added₂, h₂, hgrows₂, hanswers⟩ := h₁.next setup turn
    rw [run_concat]
    refine ⟨l₂, added₂, h₂, hgrows₁.trans hgrows₂, fun i a hadded => ?_⟩
    rcases hanswers i a hadded with hadded₁ | ⟨payload, hpayload, hanswer⟩
    · refine (hanswered₁ i a hadded₁).imp_right fun ⟨payload, hpayload, hanswered⟩ => ?_
      exact ⟨payload, hpayload, hanswered.append [turn]⟩
    · exact .inr ⟨payload, hpayload, turns, turn, [], rfl, hanswer⟩

/-! ## Submissions that do not come back -/

/-- The audit trail of a world is contained, and nothing has escaped from it. -/
structure IsContained (w : World) : Prop where
  audit : w.session.audit.IsContained
  kept : ∀ (i : Nat) (fault : Fault), w.submissions[i]? = some (.raised fault) → ¬fault.IsEscape

lemma IsContained.next (h : w.IsContained) (setup : Setup) (turn : Turn) :
    (w.next setup turn).IsContained where
  audit := by
    cases turn with
    | createVacancy now document =>
      exact (Pipeline.kept_createVacancy now document w.session).2 ▸ h.audit
    | registerVacancy now draft =>
      exact (Pipeline.kept_registerVacancy now draft w.session).2 ▸ h.audit
    | start i =>
      rw [World.next]
      split
      · rename_i payload _
        exact (payload.isQuiet_start setup w.session).audit ▸ h.audit
      · exact h.audit
    | finish now i extracted =>
      rw [World.next]
      split
      · exact Pipeline.isContained_decide h.audit setup now _ extracted
      · exact h.audit
  kept i fault hraised := by
    cases moves setup w i turn with
    | stays hkept => exact h.kept i fault (hkept.symm.trans hraised)
    | @starts payload hready =>
      rw [next_start hready, getElem?_advance hready, Option.some.injEq] at hraised
      rcases hstart : exec (payload.start setup) w.session with ⟨fault' | opened, s⟩
      · rw [hstart] at hraised
        cases hraised
        exact Payload.not_isEscape_of_start hstart
      · rw [hstart] at hraised
        cases hraised
    | @finishes now opened extracted hwaiting =>
      rw [next_finish hwaiting, getElem?_advance hwaiting, Option.some.injEq] at hraised
      rcases Pipeline.exec_decide_cases setup now opened extracted w.session with
        ⟨fault', s', hdecide, hnot, -⟩ | ⟨a, outcome, s', hdecide, hadds⟩
      · rw [hdecide] at hraised
        cases hraised
        exact hnot
      · rw [hdecide] at hraised
        -- an application that was added comes back, as the trail that was asked is contained
        rcases hadds.comesBack with rfl | ⟨hnot, -⟩
        · cases hraised
        · exact absurd h.audit hnot

lemma IsContained.run (h : w.IsContained) (setup : Setup) (turns : List Turn) :
    (w.run setup turns).IsContained := by
  induction turns generalizing w with
  | nil => exact h
  | cons turn turns ih => exact ih (h.next setup turn)

/-- The world of a session with an empty store in memory, before any of the submissions. -/
def initial (s : Session) (payloads : List Payload) : World :=
  ⟨{ s with store := .inMemory }, payloads.map .ready⟩

end World

end Shortlist
