import Shortlist.Rule.Basic
import Shortlist.Text.Lowercase

/-!
# Verdicts

Whether a fact satisfies a rule.  A fact that is absent or of the wrong kind does not.  Numbers are
compared exactly, dates by whole milliseconds, and texts in lower case.

Three facts cannot be judged at all: an interval without ends, a date whose offset is a whole
day, and a value whose text would be too long.  These and the ways in which a panel of
evaluators can fail are the constructors of `Unjudgeable`.
-/

namespace Shortlist

/-- Why a rule cannot be judged. -/
inductive Unjudgeable where
  | durationPair (fault : DurationPair)
  | offsetOutOfRange (fault : OffsetOutOfRange)
  | integerTooLong (fault : IntegerTooLong)
  | noRules (kind : String)
  | noRule (kind : String)
  | noEvaluator (family : Family)
deriving DecidableEq

/-- The message about a rule that cannot be judged, if there is one. -/
def Unjudgeable.message? : Unjudgeable → Option String
  | .durationPair _ => none
  | .offsetOutOfRange fault => some fault.message
  | .integerTooLong fault => some fault.message
  | .noRules kind => some ("'" ++ kind ++ "' object is not iterable")
  | .noRule kind => some ("Unsupported rule type: " ++ kind)
  | .noEvaluator family => some ("Unsupported rule type: " ++ family.name)

/-- The instant that a fact denotes at the time `now`, if it denotes one. -/
def Value.instant? (now : Instant) : Value → Except DurationPair (Option Instant)
  | .date d => .ok (some (.ofDate d))
  | .timestamp t => .ok (some (.ofTimestamp t))
  | .text t =>
    match t.string? with
    | some s => Instant.read? now s
    | none => .ok none
  | _ => .ok none

/-- Whether a fact is within the bound of a numeric rule. -/
def NumericRule.accepts (rule : NumericRule) (fact : Value) : Bool :=
  match fact.number? with
  | some n => rule.comparison.holds n.scaled rule.threshold.scaled
  | none => false

/-- Whether a fact is within the bound of a date rule at the time `now`. -/
def DateRule.accepts (now : Instant) (rule : DateRule) (fact : Value) : Except Unjudgeable Bool :=
  match fact.instant? now with
  | .error fault => .error (.durationPair fault)
  | .ok none => .ok false
  | .ok (some candidate) =>
    match candidate.checked, (rule.moment.instant now).checked with
    | .error fault, _ => .error (.offsetOutOfRange fault)
    | _, .error fault => .error (.offsetOutOfRange fault)
    | .ok candidate, .ok bound =>
      .ok (rule.comparison.holds candidate.epochMillis bound.epochMillis)

/-- Whether a fact is null or the empty text. -/
def Value.isBlank : Value → Bool
  | .null => true
  | .text t => t.isEmpty
  | _ => false

/-- Whether a fact is the text of an equality rule, letter case aside.  Null and the empty text are
no facts. -/
def EqualityRule.accepts (rule : EqualityRule) (fact : Value) : Except Unjudgeable Bool :=
  if fact.isBlank then .ok false
  else
    match fact.display with
    | .error fault => .error (.integerTooLong fault)
    | .ok t => .ok (t.lower = rule.text.lower)

end Shortlist
