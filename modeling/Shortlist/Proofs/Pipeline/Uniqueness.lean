import Shortlist.Proofs.Pipeline.Issuance
import Shortlist.Proofs.Pipeline.Justification

/-!
# Ids are never given twice

A run of errands on an empty store, of either kind, says of no record that its id is taken, unless a
number was drawn twice, and all ids that it hands out are different, those of vacancies and those of
applications together (`Errand.run_ids_distinct`).  The errands may fail wherever they like, the
audit trail may be kept anywhere, and the output of a batch may be written anywhere, even over a
file of the store.  Only what somebody else writes between the errands has to spare the files of the
store: by hand any id can be put there.

Which numbers were drawn can be seen from the source of ids before and after the run
(`IdSource.Gives.numbers_eq`), so that they are distinct is no more than a condition on this source.
-/

namespace Shortlist

open Shortlist.Action (exec issues_pure issues_throw)

/-! ## Empty stores -/

/-- A collection without records.  In the place of its file there is no file, or there are only
blank lines in it. -/
def Collection.IsEmpty {α : Type} [Record α] (files : Tree) : Collection α → Prop
  | .memory m => m = .empty
  | .file p => (⟨p.lastName, some (files.bytesAt (files.resolve p))⟩ : RecordFile α).toList = .ok []

lemma Collection.IsEmpty.isIssued {α : Type} [Record α] {c : Collection α} {files : Tree}
    (h : c.IsEmpty files) (ids : List Text) : c.IsIssued files ids := by
  cases c with
  | memory m =>
    obtain rfl : m = .empty := h
    exact .memory MemoryCollection.isSound_empty (List.nil_sublist ids)
  | file p => exact .file (.of_toList_nil ids h)

/-- A session with an empty store, in memory or in the two files of a directory. -/
structure Session.StartsEmpty (s : Session) : Prop where
  uniform : s.store.IsUniform
  vacancies : s.store.vacancies.IsEmpty s.files
  applications : s.store.applications.IsEmpty s.files

lemma Session.StartsEmpty.hasIssued {s : Session} (h : s.StartsEmpty) : s.HasIssued [] s where
  ids := .nil
  here := rfl
  vacanciesPath := rfl
  applicationsPath := rfl
  vacancies := h.vacancies.isIssued _
  applications := h.applications.isIssued _

/-! ## Errands -/

namespace Errand

/-- The ids of the vacancies that came about by an errand, as it was answered. -/
def newVacancies : Errand → Reply → List Text
  | .createVacancy _, .vacancy v | .registerVacancy _, .vacancy v => [v.id]
  | .runBatch _, .report report => [report.vacancyId]
  | _, _ => []

/-- The ids of the applications that came about by an errand, as it was answered. -/
def newApplications : Errand → Reply → List Text
  | .submit _, .application a => [a.id]
  | .runBatch _, .report report => report.results.map (·.id)
  | _, _ => []

/-- The ids that were handed out in a run, in the order of the errands. -/
def handedOut (new : Errand → Reply → List Text) :
    List (Instant × Errand) → List (Except Fault Reply) → List Text
  | e :: errands, .ok reply :: replies => new e.2 reply ++ handedOut new errands replies
  | _ :: errands, .error _ :: replies => handedOut new errands replies
  | _, _ => []

/-- Nobody else writes to the files of the store. -/
def SparesStore (start : Session) : Errand → Prop
  | .writeFile path _ => ∀ q, start.store.vacancies.path? = some q
      ∨ start.store.applications.path? = some q → start.files.resolve q ≠ start.files.resolve path
  | _ => True

variable {setup : Setup} {start s : Session} {draws : List Draw}
  {errands : List (Instant × Errand)}

open Pipeline

/-- An errand hands out ids that were drawn for it. -/
lemma issues_action (hdrawn : setup.applicationIds = .drawn) (huniform : start.store.IsUniform)
    (now : Instant) {errand : Errand} (hspared : errand.SparesStore start) :
    (errand.action setup now).Issues start fun reply =>
      Draw.AreGiven (errand.newVacancies reply) (errand.newApplications reply) := by
  cases errand with
  | createVacancy document =>
    exact (issues_createVacancy huniform document).bind_pure fun v more h => h
  | registerVacancy draft =>
    exact (issues_registerVacancy huniform draft).bind_pure fun v more h => h
  | submit payload =>
    exact (issues_submit hdrawn huniform payload).bind_pure fun a more h => h
  | runBatch paths =>
    exact (issues_runBatch hdrawn huniform paths).bind_pure fun report more h => h
  | listVacancies =>
    exact onlyLooks_listVacancies.bind_issues fun _ => issues_pure (.nil [])
  | getVacancy vacancyId =>
    exact (onlyLooks_getVacancy vacancyId).bind_issues fun _ => issues_pure (.nil [])
  | listApplications vacancyId =>
    exact (onlyLooks_listApplications vacancyId).bind_issues fun _ => issues_pure (.nil [])
  | writeFile path content =>
    have hwrite : (Session.changeFiles fun files => files.write path content).Issues start
        fun _ more => more = [] :=
      Action.issues_changeFiles fun _ _ _ hs h =>
        hs.elsewhere h (fun q hq => hspared q (.inl hq)) fun q hq => hspared q (.inr hq)
    exact hwrite.bind_pure fun _ more _ => .nil more

/-- So do errands one after another. -/
lemma run_hasIssued (hdrawn : setup.applicationIds = .drawn) (huniform : start.store.IsUniform)
    (hspared : ∀ e ∈ errands, e.2.SparesStore start) (h : start.HasIssued draws s) :
    ∃ more, start.HasIssued (draws ++ more) (after setup errands s)
      ∧ Draw.AreGiven (handedOut newVacancies errands (run setup errands s).1)
          (handedOut newApplications errands (run setup errands s).1) more
      ∧ (Draw.AreDistinct (draws ++ more) →
        ∀ fault, .error fault ∈ (run setup errands s).1 → ¬fault.IsDuplicate) := by
  induction errands generalizing draws s with
  | nil =>
    refine ⟨[], ?_, .nil [], fun _ fault hfault => absurd hfault List.not_mem_nil⟩
    rw [List.append_nil]
    exact h
  | cons e rest ih =>
    obtain ⟨now, errand⟩ := e
    obtain ⟨hfirst, hrest⟩ := List.forall_mem_cons.1 hspared
    obtain ⟨more, h', hok, herror⟩ := issues_action hdrawn huniform now hfirst draws s h
    obtain ⟨more', hlast, hgiven, hfine⟩ := ih hrest h'
    have hreplies : (run setup ((now, errand) :: rest) s).1
        = (exec (errand.action setup now) s).1
          :: (run setup rest (exec (errand.action setup now) s).2).1 := rfl
    rw [List.append_assoc] at hlast hfine
    rw [hreplies]
    refine ⟨more ++ more', hlast, ?_, fun hdistinct fault hmem => ?_⟩
    · cases hreply : (exec (errand.action setup now) s).1 with
      | error fault => exact (Draw.AreGiven.nil more).append hgiven
      | ok reply => exact (hok reply hreply).append hgiven
    -- a fault says that an id is taken among the draws so far, which are part of all draws
    · rcases List.mem_cons.1 hmem with hreply | hmem
      · have hbefore : Draw.AreDistinct (draws ++ more) := by
          rw [← List.append_assoc] at hdistinct
          exact hdistinct.of_append
        exact fun hfault => herror fault hreply.symm hfault hbefore
      · exact hfine hdistinct fault hmem

/-- Ids of vacancies and of applications, all of them different, and each made as ids of its kind
are. -/
structure AreDistinctIds (vacancies applications : List Text) : Prop where
  nodup : (vacancies ++ applications).Nodup
  vacancy : ∀ id ∈ vacancies, IsIdOf "vac" id
  application : ∀ id ∈ applications, IsIdOf "app" id

/-- Ids that were drawn are different if the draws are. -/
lemma areDistinctIds_of_areGiven {vacancies applications : List Text}
    (hgiven : Draw.AreGiven vacancies applications draws) (hdistinct : Draw.AreDistinct draws) :
    AreDistinctIds vacancies applications where
  nodup := hdistinct.nodup_append (by decide) hgiven.vacancies hgiven.applications
  vacancy id hid := hdistinct.isIdOf (hgiven.vacancies.subset hid)
  application id hid := hdistinct.isIdOf (hgiven.applications.subset hid)

/-- A run on an empty store whose draws are distinct numbers of 128 bits says of no record that its
id is taken.  The ids that it draws are different, whatever becomes of them; so are those that it
hands out, and those of the records that can be read in the store at its end, and each of them is
made of the word for its kind.  Ids in general are equal only if both the words and the numbers are,
whatever the words are. -/
theorem run_ids_distinct (hdrawn : setup.applicationIds = .drawn) (hempty : s.StartsEmpty)
    (hspared : ∀ e ∈ errands, e.2.SparesStore s) :
    let replies := (run setup errands s).1
    let last := (run setup errands s).2
    (∃ draws, s.ids.Gives draws last.ids)
      ∧ (∀ draws, s.ids.Gives draws last.ids → Draw.AreDistinct draws →
        (∀ id, .error (.store (.duplicate id)) ∉ replies)
          ∧ (draws.map Draw.id).Nodup
          ∧ AreDistinctIds (handedOut newVacancies errands replies)
              (handedOut newApplications errands replies)
          ∧ ∀ vacancies applications, last.store.vacancies.toList last.files = .ok vacancies →
            last.store.applications.toList last.files = .ok applications →
              AreDistinctIds (vacancies.map (·.id)) (applications.map (·.id)))
      ∧ ∀ (p q : String) (n m : Nat), n < 2 ^ 128 → m < 2 ^ 128 →
        identifier p n = identifier q m → p = q ∧ n = m := by
  intro replies last
  obtain ⟨drawn, hlast, hgiven, hfine⟩ :=
    run_hasIssued hdrawn hempty.uniform hspared hempty.hasIssued
  rw [List.nil_append] at hlast hfine
  refine ⟨⟨drawn, hlast.ids⟩, fun draws hdraws hdistinct => ?_, fun p q n m => identifier_inj⟩
  -- the run has draws of its own, but the numbers are those that the source gave
  have hdistinct' : Draw.AreDistinct drawn :=
    hdistinct.of_numbers_eq (hlast.ids.numbers_eq hdraws)
  refine ⟨fun id hmem => hfine hdistinct' _ hmem trivial, hdistinct.nodup_ids,
    areDistinctIds_of_areGiven hgiven hdistinct',
      fun vacancies applications hvacancies happlications =>
      areDistinctIds_of_areGiven ⟨?_, ?_⟩ hdistinct'⟩
  · exact hlast.vacancies.sublist_ids hvacancies
  · exact hlast.applications.sublist_ids happlications

end Errand

/-! ## A run with failures -/

/-- A posting is registered, somebody applies for it, a batch breaks off because its files are not
there, and another posting is registered. -/
def mixedErrands : List (Instant × Errand) :=
  [(Pipeline.analystDay, .registerVacancy analystDraft),
    (Pipeline.analystDay, .submit firstPayload),
    (Pipeline.analystDay, .runBatch ⟨⟨"/", ["v.yaml"]⟩, ⟨"/", ["a.jsonl"]⟩, ⟨"/", ["o.json"]⟩⟩),
    (Pipeline.analystDay, .registerVacancy analystDraft)]

/-- Three numbers are drawn in this run. -/
def mixedDraws : List Draw := [⟨"vac", 1⟩, ⟨"app", 2⟩, ⟨"vac", 3⟩]

lemma ids_mixedErrands :
    (Errand.run {} mixedErrands .overBare).2.ids = ⟨[], 4⟩
      ∧ Errand.handedOut Errand.newVacancies mixedErrands (Errand.run {} mixedErrands .overBare).1
        = [identifier "vac" 1, identifier "vac" 3]
      ∧ Errand.handedOut Errand.newApplications mixedErrands
        (Errand.run {} mixedErrands .overBare).1
        = [identifier "app" 2] := by
  decide +kernel

theorem Errand.run_ids_distinct_mixed :
    ({} : Setup).applicationIds = .drawn ∧ Session.overBare.StartsEmpty
      ∧ (∀ e ∈ mixedErrands, e.2.SparesStore .overBare)
      ∧ Session.overBare.ids.Gives mixedDraws (run {} mixedErrands .overBare).2.ids
      ∧ Draw.AreDistinct mixedDraws
      ∧ (∀ id, .error (.store (.duplicate id)) ∉ (run {} mixedErrands .overBare).1)
      ∧ AreDistinctIds [identifier "vac" 1, identifier "vac" 3] [identifier "app" 2] := by
  have hempty : Session.overBare.StartsEmpty := ⟨.directory rootPath, rfl, rfl⟩
  have hspared : ∀ e ∈ mixedErrands, e.2.SparesStore .overBare := by
    simp only [mixedErrands, List.forall_mem_cons]
    exact ⟨trivial, trivial, trivial, trivial, by simp⟩
  obtain ⟨hids, hvacancies, happlications⟩ := ids_mixedErrands
  have hgives : Session.overBare.ids.Gives mixedDraws (run {} mixedErrands .overBare).2.ids := by
    rw [hids]
    exact .snoc (.snoc (.snoc .nil "vac") "app") "vac"
  have hdistinct : Draw.AreDistinct mixedDraws := ⟨by decide, by decide⟩
  obtain ⟨hfine, -, hhanded, -⟩ :=
    (run_ids_distinct rfl hempty hspared).2.1 mixedDraws hgives hdistinct
  rw [hvacancies, happlications] at hhanded
  exact ⟨rfl, hempty, hspared, hgives, hdistinct, hfine, hhanded⟩

end Shortlist
