import Shortlist.Number.Numeral
import Shortlist.Value.Display

/-!
# Why a YAML text cannot be read

A text is cut into tokens, the tokens are read as nodes, and the nodes come to values; each step has
faults of its own.  Scalars have the most: a scalar may carry the tag of a type whose values are
not written like that.
-/

namespace Shortlist.Yaml

/-- The part of a date or timestamp that no calendar has. -/
inductive TimeFlaw where
  | offset (seconds : Int)
  | year
  | month
  | day
  | hour
  | minute
  | second
deriving DecidableEq

/-- Why a YAML text cannot be read.

* `unread`: what comes next belongs to a part of the file that cannot be read.
* `character`, `token`, `grammar`, `composition`: a character that no text holds, characters that
  are no token, tokens in a wrong order, an anchor that is missing or used twice.
* `tooDeep`: too many collections inside one another, or a scalar that stands for itself.
* `construction`: a node that does not fit its tag.
* The others: a scalar that does not fit its tag, or an escape that says no code point. -/
inductive Fault where
  | unread
  | character
  | token
  | grammar
  | composition
  | tooDeep
  | construction
  | noCodePoint (code : Nat)
  | noWord (word : Text)
  | noDigits
  | notInteger (base : Nat) (text : Text)
  | integerTooLong (integer : LongInteger)
  | notDouble (text : Text)
  | placeTooHigh
  | noTime
  | noTimeText
  | noSuchTime (flaw : TimeFlaw)
deriving DecidableEq

/-- The message about a date or timestamp that no calendar has. -/
def TimeFlaw.message : TimeFlaw → String
  | .offset seconds =>
    "offset must be a timedelta strictly between -timedelta(hours=24) and timedelta(hours=24), not "
      ++ String.ofList (Value.spellDuration seconds) ++ "."
  | .year => "year 0 is out of range"
  | .month => "month must be in 1..12"
  | .day => "day is out of range for month"
  | .hour => "hour must be in 0..23"
  | .minute => "minute must be in 0..59"
  | .second => "second must be in 0..59"

namespace Fault

/-- Whether an escape says a number beyond the integers of a machine. -/
def isBeyondMachine (code : Nat) : Bool := 2 ^ 31 ≤ code

/-- The message about a scalar that does not fit its tag, if there is one. -/
def message? : Fault → Option String
  | .tooDeep => some "maximum recursion depth exceeded"
  | .noCodePoint code =>
    some (if isBeyondMachine code then "Python int too large to convert to C int"
      else "chr() arg not in range(0x110000)")
  | .noWord word => some word.quoted
  | .noDigits => some "string index out of range"
  | .notInteger base text => some (Numeral.notInteger base text)
  | .integerTooLong integer => some integer.message
  | .notDouble text => some (Numeral.notDouble text)
  | .placeTooHigh => some "int too large to convert to float"
  | .noTimeText => some "expected string or bytes-like object, got 'list'"
  | .noSuchTime flaw => some flaw.message
  | .unread | .character | .token | .grammar | .composition | .construction | .noTime => none

end Fault

end Shortlist.Yaml
