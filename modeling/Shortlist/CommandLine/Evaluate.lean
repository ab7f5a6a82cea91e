import Shortlist.CommandLine.Task

/-!
# The command `evaluate`

Judges the facts of one file by the rules of another and prints the evaluation.  A file that holds
no JSON, no rules or no facts makes its option unusable.
-/

namespace Shortlist.Evaluate

/-- The JSON document of a file that an option names. -/
def readJson (path : String) : Task Value := do
  match readDocument (← Task.readBytes path) with
  | .error fault => Task.breakOff (.work (.file fault))
  | .ok (.error _) => throw .unusable
  | .ok (.ok v) => return v

/-- What a check accepts; what it refuses makes an option unusable. -/
def accepted {α : Type} : Check α → Task α
  | .accepted a => pure a
  | .refused _ => throw .unusable
  | .broken fault => Task.breakOff (.work (.durationPair fault))

/-- Judges and prints. -/
def run (now : Instant) (a : Arguments) : Task Unit := do
  let r ← Task.request EvaluateRequest.options EvaluateRequest.ofArguments a
  let rules ← accepted (Rule.readList (← readJson r.rules))
  let facts ← accepted (Facts.read (← readJson r.facts))
  let evaluation ← Task.attempt (fun f => .work (.unjudgeable f))
    (Panel.standard.evaluateAll now facts (rules.map .rule))
  let page ← Task.attempt (fun f => .work (.unwritable f))
    (Json.document .page evaluation.toValue)
  Task.printText (page ++ .ofString "\n")

end Shortlist.Evaluate
