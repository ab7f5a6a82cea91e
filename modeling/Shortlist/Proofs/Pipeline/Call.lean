import Shortlist.Pipeline.Batch
import Shortlist.Proofs.Application
import Shortlist.Proofs.Pipeline.Action

/-!
# Runs of calls

A pipeline is used by one call after another, each at its own time.  Every call leaves a session
behind, whether it succeeds or not, and the next one starts from there.

The orders are those with which something can be changed: a vacancy is registered, a submission is
handed in, a batch is run, and somebody else may change the files.  Whatever only looks at a store
is left out, as it can be asked of the session at the end; for runs in which it comes in between,
with what comes back each time, see `Errand`.
-/

namespace Shortlist

/-- What is handed in as an application: a document, or a submission that has been read before. -/
inductive Payload where
  | document (v : Value)
  | submission (submission : Submission)

namespace Payload

/-- Decides on what is handed in. -/
def submit (setup : Setup) (now : Instant) : Payload → Action Application
  | .document v => Pipeline.submitDocument setup now v
  | .submission s => Pipeline.submit setup now s

/-- The document that is handed in. -/
def value : Payload → Value
  | .document v => v
  | .submission s => s.toValue

/-- A submission is decided on like the document that says it. -/
lemma submit_eq (setup : Setup) (now : Instant) (payload : Payload) :
    payload.submit setup now = Pipeline.submitDocument setup now payload.value := by
  cases payload with
  | document v => rfl
  | submission s =>
    rw [value, Pipeline.submitDocument, s.read_toValue]
    rfl

end Payload

/-- What a call asks for.  Between the calls something else may change the files. -/
inductive Order where
  | createVacancy (document : Value)
  | registerVacancy (draft : VacancyDraft)
  | submit (payload : Payload)
  | runBatch (paths : BatchPaths)
  | changeFiles (files : Tree)

/-- A call, with the time at which it is made. -/
structure Call where
  now : Instant
  order : Order

namespace Call

open Shortlist.Action (exec)

/-- The session that a call leaves behind. -/
def after (setup : Setup) (call : Call) (s : Session) : Session :=
  match call.order with
  | .createVacancy document => (exec (Pipeline.createVacancy call.now document) s).2
  | .registerVacancy draft => (exec (Pipeline.registerVacancy call.now draft) s).2
  | .submit payload => (exec (payload.submit setup call.now) s).2
  | .runBatch paths => (exec (Pipeline.runBatch setup call.now paths) s).2
  | .changeFiles files => { s with files }

/-- The session that a run of calls leaves behind. -/
def run (setup : Setup) (calls : List Call) (s : Session) : Session :=
  calls.foldl (fun s call => call.after setup s) s

lemma run_append (setup : Setup) (calls calls' : List Call) (s : Session) :
    run setup (calls ++ calls') s = run setup calls' (run setup calls s) := List.foldl_append

@[simp]
lemma run_singleton (setup : Setup) (call : Call) (s : Session) :
    run setup [call] s = call.after setup s := rfl

end Call

end Shortlist
