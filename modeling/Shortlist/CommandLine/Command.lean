import Shortlist.CommandLine.Arguments

/-!
# Commands

The program has two commands.  `evaluate` judges one candidate by a list of rules; `screen` runs a
batch.  Asking for help is a command as well.
-/

namespace Shortlist

/-- What `evaluate` is asked for: the paths of the rules and of the facts. -/
structure EvaluateRequest where
  rules : String
  facts : String
deriving DecidableEq

/-- What `screen` is asked for: the paths of the vacancy, of the applications and of the output, and
perhaps those of a configuration and of an audit file, and the threshold of the log. -/
structure ScreenRequest where
  vacancy : String
  applications : String
  output : String
  config : Option String := none
  logLevel : Option String := none
  auditLog : Option String := none
deriving DecidableEq

/-- What the value of an option has to be: the path of a file that is there, a path that leads to no
directory, a path whose place from the root is no directory, or any word. -/
inductive OptionKind where
  | file
  | target
  | place
  | word
deriving DecidableEq

/-- What the program is asked for.  The arguments of a command are judged when it runs. -/
inductive Command where
  | help
  | evaluate (arguments : Arguments)
  | screen (arguments : Arguments)
deriving DecidableEq

namespace EvaluateRequest

/-- The options. -/
def options : List (String × OptionKind) := [("--rules", .file), ("--facts", .file)]

/-- The request of sorted arguments; both options are needed, and there are no words. -/
def ofArguments (a : Arguments) : Option EvaluateRequest := do
  let rules ← a.value? "--rules"
  let facts ← a.value? "--facts"
  if a.words.isEmpty then some ⟨rules, facts⟩ else none

end EvaluateRequest

namespace ScreenRequest

/-- The options. -/
def options : List (String × OptionKind) :=
  [("--vacancy", .file), ("--applications", .file), ("--output", .place), ("--config", .file),
    ("--log-level", .word), ("--audit-log", .target)]

/-- The request of sorted arguments; three options are needed, and there are no words. -/
def ofArguments (a : Arguments) : Option ScreenRequest := do
  let vacancy ← a.value? "--vacancy"
  let applications ← a.value? "--applications"
  let output ← a.value? "--output"
  if a.words.isEmpty then
    some { vacancy, applications, output, config := a.value? "--config",
           logLevel := a.value? "--log-level", auditLog := a.value? "--audit-log" }
  else none

end ScreenRequest

namespace Command

/-- The command that takes the given options, or help if the flag for it is among the arguments. -/
def ofOptions (options : List (String × OptionKind)) (command : Arguments → Command)
    (args : List String) : Option Command :=
  (Arguments.read (options.map (·.1)) args).map fun a => if a.help then .help else command a

/-- The command of a name with its arguments.  If there is no command of that name, it may still be
the flag that asks for help. -/
def named (name : String) (args : List String) : Option Command :=
  if name = "evaluate" then ofOptions EvaluateRequest.options .evaluate args
  else if name = "screen" then ofOptions ScreenRequest.options .screen args
  else
    match Arguments.leading (name :: args) with
    | some (true, _) => some .help
    | _ => none

/-- The command that the arguments of the program ask for, if they ask for one. -/
def ofArguments (args : List String) : Option Command :=
  match Arguments.leading args with
  | some (true, _) => some .help
  | some (false, name :: args) => named name args
  | _ => none

/-- How the program is used. -/
def usage : List String :=
  ["Usage:",
    "  evaluate --rules FILE --facts FILE",
    "      Evaluate rules against facts and print the verdict.",
    "  screen --vacancy FILE --applications FILE --output FILE",
    "         [--config FILE] [--log-level LEVEL] [--audit-log FILE]",
    "      Register a vacancy and decide every application in a JSONL file."]

end Command

end Shortlist
