import Shortlist.Proofs.Batch.Accounting
import Shortlist.Proofs.Batch.Isolation
import Shortlist.Proofs.Batch.OutputFile
import Shortlist.Proofs.CommandLine.Preparation

/-!
# The output of a screening

Whoever calls the command `screen` goes by its exit code.  If it is zero, the output file holds the
report of the batch, and the line that is printed has the numbers of this report.  If it is not,
nothing is printed and the output file is as it was (`Screen.run_output`), with one exception: a
report whose document has no bytes leaves an empty file.

Neither the audit file nor the files of the store may be at the place of the output
(`ScreenRequest.IsApart`).

The command has three parts.  The front reads the arguments, prepares the collaborators and changes
no file; the batch may leave the output as it was, or empty; and what is printed is printed last,
when the report has been written.  So an exit code that is not zero says that one of the first two
has failed.
-/

namespace Shortlist

/-- What a command that does not finish leaves of an output file. -/
def Ending.leaves (ending : Ending) (before : Option Text.Bytes) : Option Text.Bytes :=
  match ending with
  | .broken (.work fault) => fault.leaves before
  | _ => before

lemma Ending.leaves_of_isEarly {ending : Ending} (h : ending.IsEarly)
    (before : Option Text.Bytes) : ending.leaves before = before := by
  cases ending with
  | broken cause =>
    cases cause with
    | work fault => cases h
    | _ => rfl
  | _ => rfl

/-- How a command ends over a fault of its batch. -/
def Fault.ending (fault : Fault) : Ending :=
  match fault.message? with
  | some message => .failed message
  | none => .broken (.work fault)

/-- A fault that is reported leaves the output file as it was. -/
lemma Fault.leaves_ending (fault : Fault) (before : Option Text.Bytes) :
    fault.ending.leaves before = fault.leaves before := by
  cases hmessage : fault.message? with
  | none => rw [ending, hmessage, Ending.leaves]
  | some message =>
    have hbefore : fault.leaves before = before := by
      refine fault.leaves_of_not_isOfDocument ?_ before
      cases fault <;> first | exact id | cases hmessage
    rw [ending, hmessage, hbefore]
    rfl

/-- Neither the audit file nor the files of the store are at the place of the output. -/
structure ScreenRequest.IsApart (r : ScreenRequest) (t : Tree) : Prop where
  audit : ∀ path, r.auditLog = some path →
    t.resolve (.ofText path) ≠ t.resolve (r.outputPath t)
  store : ∀ c directory, r.configIn t = .ok c → c.directory = .ok (some directory) →
    ∀ name ∈ [Store.vacanciesName, Store.applicationsName],
      t.resolve (directory.child name) ≠ t.resolve (r.outputPath t)

/-! ## What a document counts -/

/-- Whether a result that is shown has a status. -/
def Value.hasStatus (status : Status) (result : Value) : Bool :=
  match result.member? "status" with
  | some (.text name) => name = status.name
  | _ => false

/-- A document holds so many results and so many accepted ones, and says so. -/
structure Value.Counts (document : Value) (count accepted : Nat) : Prop where
  results : ∃ results, document.member? "results" = some (.list results)
    ∧ results.length = count ∧ results.countP (Value.hasStatus .accepted) = accepted
  applicationCount : (document.member? "metadata").bind (·.member? "application_count")
    = some (.int count)
  accepted : (document.member? "metadata").bind (·.member? "accepted") = some (.int accepted)

/-- A result that is shown shows its status. -/
lemma Application.status_dump (a : Application) :
    a.toValue.dump.member? "status" = some (.text a.status.name) := by
  have hdump : a.toValue.dump = .record (a.fields.map fun f => (f.1, f.2.dump)) :=
    Value.dump_record (by simp)
  rw [hdump, Value.member?_record]
  rfl

lemma Application.hasStatus_dump (a : Application) (status : Status) :
    a.toValue.dump.hasStatus status = decide (a.status = status) := by
  rw [Value.hasStatus, a.status_dump]
  cases a.status <;> cases status <;> rfl

/-- The document of a report counts its results. -/
lemma BatchReport.counts_toValue (report : BatchReport) :
    report.toValue.Counts report.results.length (report.count .accepted) := by
  have hsays := report.isSaidBy_toValue
  refine ⟨⟨_, hsays.results, List.length_map _, ?_⟩, hsays.applicationCount, hsays.accepted⟩
  rw [List.countP_map, count, ← List.countP_eq_length_filter]
  exact List.countP_congr fun a _ => by rw [Function.comp_apply, a.hasStatus_dump]

namespace Screen

open Pipeline
open Shortlist.Task (exec exec_bind_ok exec_bind_error exec_bind_eq_ok)

variable {now : Instant} {ids : IdSource} {a : Arguments} {r : ScreenRequest} {c : Config}
  {p : Preparation} {t : Tree} {scene scene' : Scene} {report : BatchReport} {s' : Session}
  {fault : Fault}

/-! ## The batch -/

/-- A scene after a batch: its files and its events are kept. -/
def kept (scene : Scene) (threshold : Nat) (s : Session) : Scene :=
  { scene with
    tree := s.files, log := scene.log ++ LogEntry.written threshold (s.events.map Event.entry) }

@[simp]
lemma printed_kept (scene : Scene) (threshold : Nat) (s : Session) :
    (kept scene threshold s).printed = scene.printed := rfl

lemma exec_runBatch_of_ok
    (h : Action.exec (Pipeline.runBatch p.setup now p.paths) p.session = (.ok report, s'))
    (scene : Scene) :
    exec (runBatch now p.setup p.paths p.threshold p.session) scene
      = (.ok report, kept scene p.threshold s') := by
  have hrun : (Pipeline.runBatch p.setup now p.paths).run.run p.session = (.ok report, s') := h
  rw [runBatch, hrun]
  rfl

/-- The line about a batch is printed when it has come back. -/
lemma exec_conclude_of_ok
    (h : Action.exec (Pipeline.runBatch p.setup now p.paths) p.session = (.ok report, s'))
    (scene : Scene) :
    exec (conclude now p) scene
      = (.ok (), { kept scene p.threshold s' with
          printed := scene.printed ++ summary report p.paths.output }) := by
  rw [conclude, exec_bind_ok (exec_runBatch_of_ok h scene), Task.exec_print, printed_kept]

lemma exec_conclude_of_error
    (h : Action.exec (Pipeline.runBatch p.setup now p.paths) p.session = (.error fault, s'))
    (scene : Scene) :
    exec (conclude now p) scene = (.error fault.ending, kept scene p.threshold s') := by
  have hrun : (Pipeline.runBatch p.setup now p.paths).run.run p.session = (.error fault, s') := h
  have hbatch : exec (runBatch now p.setup p.paths p.threshold p.session) scene
      = (.error fault.ending, kept scene p.threshold s') := by
    rw [runBatch, hrun, Fault.ending]
    dsimp only
    cases fault.message? <;> rfl
  rw [conclude, exec_bind_error hbatch]

/-! ## The whole command -/

/-- A batch that is prepared keeps nothing at the place of the output. -/
lemma IsPrepared.isAwayFrom (h : IsPrepared ids t r c p) (hapart : r.IsApart t) :
    p.session.IsAwayFrom (t.resolve (r.outputPath t)) := by
  -- preparing makes directories and does not move, so paths lead where they led
  have hresolve (q : Path) : p.session.files.resolve q = t.resolve q :=
    Tree.resolve_of_here h.files.here q
  obtain ⟨directory, hdirectory, hstore⟩ := h.store
  refine ⟨fun q hq => ?_, fun q hq => ?_, fun q hq => ?_⟩
  · rw [h.audit, ScreenRequest.trail] at hq
    split at hq
    · cases hq
    · rename_i path hpath
      cases hq
      rw [hresolve]
      exact hapart.audit path hpath
  all_goals
    rw [hstore] at hq
    cases directory with
    | none => cases hq
    | some directory =>
      cases hq
      rw [hresolve]
      exact hapart.store c directory h.config hdirectory _ (by simp)

/-- The output of a batch that is prepared is at the place that the request means. -/
lemma IsPrepared.resolve_output (h : IsPrepared ids t r c p) :
    p.session.files.resolve p.paths.output = t.resolve (r.outputPath t) := by
  rw [h.paths, Tree.resolve_of_here h.files.here, ScreenRequest.paths]

/-- The line about so many applications. -/
def line (count accepted : Nat) (output : Path) : List Char :=
  ("Processed " ++ toString count ++ " applications (" ++ toString accepted
    ++ " accepted). Results saved to " ++ output.toText ++ ".\n").toList

/-- What a screening leaves behind that comes to its end: the output file holds the report of its
batch, and the line that is printed has the numbers of the results and of the accepted ones in this
file. -/
structure HasReported (now : Instant) (ids : IdSource) (t : Tree) (r : ScreenRequest)
    (report : BatchReport) (scene : Scene) : Prop where
  batch : ∃ c p s', IsPrepared ids t r c p
    ∧ Action.exec (Pipeline.runBatch p.setup now p.paths) p.session = (.ok report, s')
  file : ∃ output, scene.tree.fileAt (t.resolve (r.outputPath t)) = some output
    ∧ readDocument output = .ok (.ok report.toValue)
  isSaid : report.IsSaidBy report.toValue
  printed : ∃ count accepted, report.toValue.Counts count accepted
    ∧ scene.printed = line count accepted (r.outputPath t)

/-- A batch that comes back leaves its report at the place of the output. -/
lemma fileAt_of_runBatch_ok {setup : Setup} {paths : BatchPaths} {s : Session}
    (haway : s.IsAwayFrom (s.files.resolve paths.output))
    (h : Action.exec (Pipeline.runBatch setup now paths) s = (.ok report, s')) :
    ∃ output, s'.files.fileAt (s.files.resolve paths.output) = some output
      ∧ readDocument output = .ok (.ok report.toValue) := by
  obtain ⟨course⟩ := Pipeline.nonempty_course h
  obtain ⟨output, hread, hdocument⟩ := course.readDocument_output
  refine ⟨output, ?_, hdocument⟩
  have hkeeps :=
    (KeepsFile.isInvariant setup now s.files (s.files.resolve paths.output)).decideBatch
    (.start_of_isAwayFrom haway) paths
  rw [Pipeline.runBatch_eq, Action.exec_bind_eq_ok] at h
  obtain ⟨_, decided, hdecide, h⟩ := h
  rw [hdecide] at hkeeps
  rw [Action.exec_bind_eq_ok] at h
  obtain ⟨_, _, hwrite, hpure⟩ := h
  cases hpure
  obtain ⟨-, -, files, -, -, hfiles, -, rfl⟩ := Pipeline.exec_writeOutput_ok hwrite
  rw [← Tree.resolve_of_here (hfiles.here.trans hkeeps.here)]
  exact Tree.fileAt_of_read hread

lemma hasReported_of_exec (hprepared : IsPrepared ids t r c p) (hapart : r.IsApart t)
    (hprinted : scene.printed = [])
    (h : Action.exec (Pipeline.runBatch p.setup now p.paths) p.session = (.ok report, s')) :
    HasReported now ids t r report { kept scene p.threshold s' with
      printed := scene.printed ++ summary report p.paths.output } := by
  have haway := hprepared.isAwayFrom hapart
  rw [← hprepared.resolve_output] at haway
  obtain ⟨output, hfile, hdocument⟩ := fileAt_of_runBatch_ok haway h
  rw [hprepared.resolve_output] at hfile
  refine ⟨⟨c, p, s', hprepared, h⟩, ⟨output, hfile, hdocument⟩, report.isSaidBy_toValue,
    _, _, report.counts_toValue, ?_⟩
  rw [hprinted, hprepared.paths, List.nil_append, summary, line, ScreenRequest.paths]

/-- A batch that breaks off leaves of the output file what its ending says. -/
lemma fileAt_of_exec_error (hprepared : IsPrepared ids t r c p) (hapart : r.IsApart t)
    (h : Action.exec (Pipeline.runBatch p.setup now p.paths) p.session = (.error fault, s')) :
    s'.files.fileAt (t.resolve (r.outputPath t))
      = fault.ending.leaves (t.fileAt (t.resolve (r.outputPath t))) := by
  have haway := hprepared.isAwayFrom hapart
  rw [← hprepared.resolve_output] at haway
  have hfile := Pipeline.fileAt_of_runBatch_error haway h
  rw [hprepared.resolve_output, hprepared.files.fileAt] at hfile
  rw [hfile, fault.leaves_ending]

/-- What a command with these arguments does before its batch. -/
def front (ids : IdSource) (a : Arguments) : Task Preparation :=
  Task.request ScreenRequest.options ScreenRequest.ofArguments a >>= prepare ids

lemma run_eq_front (now : Instant) (ids : IdSource) (a : Arguments) :
    run now ids a = front ids a >>= conclude now := by
  rw [run_eq, front, bind_assoc]

lemma run_screen (now : Instant) (ids : IdSource) (a : Arguments) (t : Tree) :
    Command.run (.screen a) now ids t = exec (front ids a >>= conclude now) { tree := t } := by
  rw [← run_eq_front]
  rfl

lemma isPreparatory_front (ids : IdSource) (a : Arguments) : IsPreparatory (front ids a) :=
  (isPreparatory_of_isLook (Task.isLook_request _ _ a)).bind (isPreparatory_prepare ids)

lemma isPrepared_of_front (hr : ScreenRequest.ofArguments a = some r)
    (h : exec (front ids a) scene = (.ok p, scene')) : ∃ c, IsPrepared ids scene.tree r c p := by
  rw [front, exec_bind_eq_ok] at h
  obtain ⟨r', _, hrequest, h⟩ := h
  obtain ⟨hr', rfl⟩ := Task.exec_request_ok hrequest
  cases hr.symm.trans hr'
  exact isPrepared_of_exec h

/-- A screening whose arguments are a request reports, or it prints nothing and leaves the output
file as it was; only if the document of its report has no bytes, it leaves an empty file. -/
theorem run_output (now : Instant) (ids : IdSource) (hr : ScreenRequest.ofArguments a = some r)
    (hapart : r.IsApart t) :
    ∃ outcome scene, Command.run (.screen a) now ids t = (outcome, scene)
      ∧ (exitCode outcome = 0 → ∃ report, HasReported now ids t r report scene)
      ∧ (exitCode outcome ≠ 0 → scene.printed = []
        ∧ ∃ ending, outcome = .error ending
          ∧ scene.tree.fileAt (t.resolve (r.outputPath t))
            = ending.leaves (t.fileAt (t.resolve (r.outputPath t)))) := by
  have hfiles := (isPreparatory_front ids a).files { tree := t }
  have hprinted := (isPreparatory_front ids a).printed { tree := t }
  have hearly := (isPreparatory_front ids a).early { tree := t }
  -- the front has changed no file, so only the batch can reach the output
  rw [run_screen]
  cases hfront : exec (front ids a) { tree := t } with
  | mk outcome scene =>
    rw [hfront] at hfiles hprinted hearly
    cases outcome with
    | error ending =>
      rw [exec_bind_error hfront]
      refine ⟨_, _, rfl, ?_, fun _ => ⟨hprinted, ending, rfl, ?_⟩⟩
      · cases ending <;> rintro ⟨⟩
      · rw [Ending.leaves_of_isEarly (hearly ending rfl)]
        exact hfiles.fileAt _
    | ok p =>
      obtain ⟨c, hprepared⟩ := isPrepared_of_front hr hfront
      rw [exec_bind_ok hfront]
      cases hbatch : Action.exec (Pipeline.runBatch p.setup now p.paths) p.session with
      | mk outcome s' =>
        cases outcome with
        | ok report =>
          rw [exec_conclude_of_ok hbatch]
          refine ⟨_, _, rfl, fun _ => ⟨report, ?_⟩, fun h => absurd rfl h⟩
          exact hasReported_of_exec hprepared hapart hprinted hbatch
        | error fault =>
          rw [exec_conclude_of_error hbatch]
          refine ⟨_, _, rfl, ?_, fun _ => ⟨hprinted, fault.ending, rfl, ?_⟩⟩
          · cases fault.ending <;> rintro ⟨⟩
          · exact fileAt_of_exec_error hprepared hapart hbatch

/-! ## A screening of two lines -/

/-- The arguments that name a posting, two lines, and an output that is not there yet. -/
def pairArguments : Arguments where
  options := [("--vacancy", "/vacancy.json"), ("--applications", "/applications.jsonl"),
    ("--output", "/output.json")]

/-- The request of these arguments. -/
def pairRequest : ScreenRequest where
  vacancy := "/vacancy.json"
  applications := "/applications.jsonl"
  output := "/output.json"

lemma exec_request_pair :
    exec (Task.request ScreenRequest.options ScreenRequest.ofArguments pairArguments)
        { tree := Pipeline.pairBatch.files }
      = (.ok pairRequest, { tree := Pipeline.pairBatch.files }) := by
  rfl

lemma isApart_pair : pairRequest.IsApart Pipeline.pairBatch.files :=
  ⟨by rintro path ⟨⟩, by rintro c directory ⟨⟩ ⟨⟩⟩

/-- The setup of a configuration that says nothing. -/
def usualSetup : Setup := Config.setup {}

lemma isHarmless_pairLines :
    ∀ line ∈ ApplicationsFile.lines pairLines, IsHarmless usualSetup analystDay .usual
      (pairBatch.nextVacancy analystDay analystDraft) line.2 := by
  have hempty : IsHarmless usualSetup analystDay .usual
      (pairBatch.nextVacancy analystDay analystDraft) ['\x7b', '\x7d'] := by
    refine isHarmless_of_isShowable ((Application.isDecoded_toValue ?_).isShowable_iff.2 rfl)
    rintro _ ⟨⟩
    exact Facts.isDecoded_usual
  have hbad : IsHarmless usualSetup analystDay .usual
      (pairBatch.nextVacancy analystDay analystDraft) ['[', ']'] :=
    isHarmless_of_invalid ⟨⟨[], [⟨1, .notObject⟩]⟩, rfl⟩ rfl
  rw [lines_pairLines]
  simpa using ⟨hempty, hbad⟩

lemma length_decidedLines_pair :
    (decidedLines (pairBatch.nextVacancy analystDay analystDraft) pairLines).length = 1 := by
  rw [decidedLines, lines_pairLines]
  rfl

/-- The batch over the two lines comes back with a result for the first one. -/
lemma exists_runBatch_pair :
    ∃ report s', Action.exec (Pipeline.runBatch usualSetup analystDay analystPaths) pairBatch
      = (.ok report, s') := by
  have hsetup : usualSetup.IsStandard .usual := Config.isStandard_setup {}
  obtain ⟨results, houtcome⟩ :=
    (exists_isOutcome_iff hsetup).2 ⟨isHarmless_pairLines, length_decidedLines_pair ▸ by decide⟩
  refine exists_exec_runBatch hsetup holdsBatch_pair AuditTrail.isContained_off
    (drawsNewIds_pair.mono ?_) houtcome
  rw [length_decidedLines_pair, lines_pairLines]
  decide

/-- What is prepared for the two lines. -/
def pairPreparation : Preparation := prepared {} pairBatch.files pairRequest {} 20 none

lemma exec_front_pair :
    exec (front {} pairArguments) { tree := pairBatch.files }
      = (.ok pairPreparation, { tree := pairBatch.files }) := by
  rw [front, exec_bind_ok exec_request_pair]
  exact exec_prepare rfl rfl rfl rfl rfl (by rintro path ⟨⟩)

theorem run_output_pair :
    ScreenRequest.ofArguments pairArguments = some pairRequest
      ∧ pairRequest.IsApart pairBatch.files
      ∧ ∃ report scene, Command.run (.screen pairArguments) analystDay {} pairBatch.files
          = (.ok (), scene) ∧ HasReported analystDay {} pairBatch.files pairRequest report
            scene := by
  obtain ⟨report, s', hbatch⟩ : ∃ report s', Action.exec (Pipeline.runBatch pairPreparation.setup
      analystDay pairPreparation.paths) pairPreparation.session = (.ok report, s') :=
    exists_runBatch_pair
  have hends := run_screen analystDay {} pairArguments pairBatch.files
  rw [exec_bind_ok exec_front_pair, exec_conclude_of_ok hbatch] at hends
  have hrequest : ScreenRequest.ofArguments pairArguments = some pairRequest := rfl
  obtain ⟨outcome, scene, hrun, hreports, -⟩ :=
    run_output analystDay {} hrequest isApart_pair
  rw [hrun] at hends
  obtain ⟨rfl, rfl⟩ := Prod.mk.inj hends
  obtain ⟨report, hreported⟩ := hreports rfl
  exact ⟨hrequest, isApart_pair, report, _, hrun, hreported⟩

end Screen

end Shortlist
