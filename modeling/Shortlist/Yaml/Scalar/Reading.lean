import Shortlist.Text.Base64
import Shortlist.Text.Lowercase
import Shortlist.Yaml.Scalar.Form

/-!
# The values of scalars

The value of a scalar with a given type.  The type need not be the one that the text looks like, so
the text is read anew, and more loosely: a number may be any numeral after its sign.
-/

namespace Shortlist.Yaml

namespace Scalar

/-- The text without underscores. -/
def withoutMarks (t : Text) : Text := ⟨t.points.filter (· ≠ '_')⟩

/-- Splits off a sign: whether it is a minus, and what follows. -/
def splitSign (ps : List CodePoint) : Bool × List CodePoint :=
  match ps with
  | [] => (false, [])
  | p :: rest =>
    if p = '-' then (true, rest) else if p = '+' then (false, rest) else (false, ps)

/-! ## Integers -/

/-- The integer that a text says in a base. -/
def numberIn (base : Nat) (ps : List CodePoint) : Except Fault Int :=
  match Numeral.integer base ⟨ps⟩ with
  | .ok n => .ok n
  | .error .malformed => .error (.notInteger base ⟨ps⟩)
  | .error (.tooLong integer) => .error (.integerTooLong integer)

/-- The parts of a text between colons. -/
def places (ps : List CodePoint) : List (List CodePoint) := ps.splitOn (.ofChar ':')

/-- The integer of a text without its sign. -/
def unsignedInteger (ps : List CodePoint) : Except Fault Int :=
  match ps with
  | [] => .error .noDigits
  | zero :: rest =>
    if zero = '0' then
      match rest with
      | [] => .ok 0
      | mark :: digits =>
        if mark = 'b' then numberIn 2 digits
        else if mark = 'x' then numberIn 16 digits
        else numberIn 8 ps
    else if ps.contains (.ofChar ':') then
      (places ps).foldlM (fun n part => do return n * 60 + (← numberIn 10 part)) 0
    else numberIn 10 ps

/-- The integer of a text. -/
def integer (t : Text) : Except Fault Int := do
  let (negative, rest) := splitSign (withoutMarks t).points
  let n ← unsignedInteger rest
  return if negative then -n else n

/-! ## Doubles -/

/-- The double that a text says. -/
def numeral (ps : List CodePoint) : Except Fault Double :=
  match Numeral.double? ⟨ps⟩ with
  | some x => .ok x
  | none => .error (.notDouble ⟨ps⟩)

/-- The greatest number of places in base 60 whose units are all doubles. -/
def placeLimit : Nat := 174

/-- The sum of places in base 60, the last one first, of which `n` have been added. -/
def sumPlaces (n : Nat) (sum : Double) : List Double → Except Fault Double
  | [] => .ok sum
  | x :: rest =>
    if placeLimit ≤ n then .error .placeTooHigh
    else sumPlaces (n + 1) (sum.add (x.mul (.ofRatio false (60 ^ n) 1))) rest

/-- The text of a double as it is read: in lower case, without underscores, and its sign apart. -/
def doubleText (t : Text) : Bool × List CodePoint := splitSign (withoutMarks t).lower.points

/-- Whether a text is the word for what is not a number. -/
def isNanWord (t : Text) : Bool := (doubleText t).2 = Text.points ".nan"

/-- The double of a text. -/
def double (t : Text) : Except Fault Double := do
  if (withoutMarks t).isEmpty then throw .noDigits
  let (negative, rest) := doubleText t
  let x ←
    if rest = Text.points ".inf" then pure (.infinite false)
    else if rest = Text.points ".nan" then pure .nan
    else if rest.contains (.ofChar ':') then do
      let parts ← (places rest).mapM numeral
      sumPlaces 0 (.ofRank false 0) parts.reverse
    else numeral rest
  return if negative then x.neg else x

/-! ## Other types -/

/-- The boolean of a text. -/
def boolean (t : Text) : Except Fault Bool :=
  match booleanWords.find? fun w => Text.ofString w.1 = t.lower with
  | some w => .ok w.2
  | none => .error (.noWord t.lower)

/-- The bytes of a text. -/
def bytes (t : Text) : Except Fault Text.Bytes :=
  match t.chars? with
  | none => .error .construction
  | some cs =>
    if cs.any fun c => 0x80 ≤ c.toNat then .error .construction
    else
      match Text.Base64.read? cs with
      | some content => .ok content
      | none => .error .construction

/-- The date or timestamp of a text. -/
def time (t : Text) : Except Fault Value :=
  match t.chars?.bind fun cs => readTime (withoutLineEnd cs) with
  | none => .error .noTime
  | some written =>
    match timeOf written with
    | .ok v => .ok v
    | .error flaw => .error (.noSuchTime flaw)

/-- The value of a scalar. -/
def read (tag : Tag) (t : Text) : Except Fault Value :=
  match tag with
  | .null => .ok .null
  | .bool => (boolean t).map .bool
  | .int => (integer t).map .int
  | .float => (double t).map .float
  | .binary => (bytes t).map .bytes
  | .timestamp => time t
  | .str => .ok (.text t)
  | .seq | .pairs | .map | .set | .merge | .value | .other => .error .construction

end Scalar

end Shortlist.Yaml
