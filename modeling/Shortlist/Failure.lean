/-!
# Failures of collaborators

Extractors and the recorders of an audit trail come from outside and may fail in any way.  An
ordinary failure is taken up, and its text is passed on.  But the text has to be asked for, and
asking can fail in its turn; and what is no ordinary failure, such as a request to end the program,
is not taken up at all.  In both cases something escapes, and the work breaks off with it.
-/

namespace Shortlist

/-- What escapes from a collaborator: its kind, and the message that comes with it. -/
structure Escape where
  kind : String
  message : String
deriving DecidableEq

/-- How a collaborator fails: ordinarily and with a text, ordinarily but so that asking for the text
fails with something else, or not ordinarily. -/
inductive Failure where
  | told (message : String)
  | untold (raised : Escape)
  | exit (raised : Escape)
deriving DecidableEq

/-- The text of a failure, or what escapes. -/
def Failure.text : Failure → Except Escape String
  | .told message => .ok message
  | .untold raised => .error raised
  | .exit raised => .error raised

end Shortlist
