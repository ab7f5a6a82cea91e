import Shortlist.Number.Numeral
import Shortlist.Number.Shortest
import Shortlist.Text.Quoted
import Shortlist.Value.Basic

/-!
# Values in messages

A degree or institution may be any value, and it is compared by its text.  A text stands for
itself; every other value has the text given here.  Inside lists and mappings texts are quoted
and dates are spelled out with their fields.

The text of an integer is refused beyond `integerDigitLimit` digits.
-/

namespace Shortlist

/-- An integer too long to be written. -/
inductive IntegerTooLong where
  | mk
deriving DecidableEq

/-- The message about an integer that is too long to be written. -/
def IntegerTooLong.message (_ : IntegerTooLong) : String :=
  "Exceeds the limit (4300 digits) for integer string conversion; "
    ++ "use sys.set_int_max_str_digits() to increase the limit"

/-- The decimal digits of an integer. -/
def intChars (n : Int) : List Char :=
  if n < 0 then '-' :: Nat.toDigits 10 n.natAbs else Nat.toDigits 10 n.natAbs

/-- The decimal digits of an integer that is not too long. -/
def intChars? (n : Int) : Except IntegerTooLong (List Char) :=
  if digitCount n.natAbs > integerDigitLimit then .error .mk else .ok (intChars n)

/-- The text of a double in messages. -/
def Double.display : Double → List Char
  | .finite x => Layout.report.write x
  | .infinite negative => if negative then ['-', 'i', 'n', 'f'] else ['i', 'n', 'f']
  | .nan => ['n', 'a', 'n']

/-- The text of a double as a threshold: an integer is written without a fraction. -/
def FiniteDouble.displayThreshold (x : FiniteDouble) : List Char :=
  x.integral?.elim (Layout.report.write x) intChars

namespace Value

/-- The text of a boolean in messages. -/
def displayBool (b : Bool) : List Char := if b then "True".toList else "False".toList

/-- Texts with a comma and a space between them. -/
def commaSeparated (parts : List (List Char)) : List Char := [',', ' '].intercalate parts

/-- A list of numbers with a comma and a space between them. -/
def fieldList (fields : List Nat) : List Char :=
  commaSeparated (fields.map (Nat.toDigits 10 ·))

/-- A date spelled out with its fields. -/
def spellDate (d : Date) : List Char :=
  "datetime.date(".toList ++ fieldList [d.year, d.month, d.day] ++ [')']

/-- A length of time in microseconds spelled out; a negative one is days back and the rest
forward. -/
def spellDuration (micros : Int) : List Char :=
  let days := micros / 86400000000
  let seconds := (micros % 86400000000).toNat / 1000000
  let rest := (micros % 1000000).toNat
  let parts :=
    (if days = 0 then [] else ["days=".toList ++ intChars days])
      ++ (if seconds = 0 then [] else ["seconds=".toList ++ Nat.toDigits 10 seconds])
      ++ (if rest = 0 then [] else ["microseconds=".toList ++ Nat.toDigits 10 rest])
  "datetime.timedelta(".toList ++ commaSeparated parts ++ [')']

/-- An offset spelled out. -/
def spellOffset (micros : Int) : List Char :=
  if micros = 0 then "datetime.timezone.utc".toList
  else "datetime.timezone(".toList ++ spellDuration micros ++ [')']

/-- A timestamp spelled out with its fields; zeros at the end of the time are left out after the
minutes. -/
def spellTimestamp (t : Timestamp) : List Char :=
  let tail :=
    if t.time.micro ≠ 0 then [t.time.second, t.time.micro]
    else if t.time.second ≠ 0 then [t.time.second] else []
  let fields := [t.date.year, t.date.month, t.date.day, t.time.hour, t.time.minute] ++ tail
  let zone := match t.offset with
    | none => []
    | some offset => ", tzinfo=".toList ++ spellOffset offset
  "datetime.datetime(".toList ++ fieldList fields ++ zone ++ [')']

/-- A key inside a mapping. -/
def spellKey : Key → Except IntegerTooLong (List Char)
  | .name t => .ok t.quoted.toList
  | .null => .ok "None".toList
  | .bool b => .ok (displayBool b)
  | .int n => intChars? n
  | .float x => .ok x.display
  | .bytes content => .ok (Text.quotedBytes content).toList
  | .date d => .ok (spellDate d)
  | .timestamp t => .ok (spellTimestamp t)

/-- A set; the empty one is spelled out. -/
def spellSet (members : List Key) : Except IntegerTooLong (List Char) :=
  if members.isEmpty then .ok "set()".toList
  else do
    let parts ← members.mapM spellKey
    return '\x7b' :: commaSeparated parts ++ ['\x7d']

mutual

/-- A value inside a list or mapping. -/
def spell : Value → Except IntegerTooLong (List Char)
  | .null => .ok "None".toList
  | .bool b => .ok (displayBool b)
  | .int n => intChars? n
  | .float x => .ok x.display
  | .text t => .ok t.quoted.toList
  | .bytes content => .ok (Text.quotedBytes content).toList
  | .date d => .ok (spellDate d)
  | .timestamp t => .ok (spellTimestamp t)
  | .loop false _ => .ok "[...]".toList
  | .loop true _ => .ok ('\x7b' :: "...".toList ++ ['\x7d'])
  | .set members => spellSet members
  | .pair first second => do
    let first ← spell first
    let second ← spell second
    return '(' :: commaSeparated [first, second] ++ [')']
  | .list items => do
    let parts ← spellAll items
    return '[' :: commaSeparated parts ++ [']']
  | .mapping entries => do
    let parts ← spellEntries entries
    return '\x7b' :: commaSeparated parts ++ ['\x7d']

/-- The values of a list. -/
def spellAll : List Value → Except IntegerTooLong (List (List Char))
  | [] => .ok []
  | v :: rest => do
    let head ← spell v
    let tail ← spellAll rest
    return head :: tail

/-- The entries of a mapping. -/
def spellEntries : List (Key × Value) → Except IntegerTooLong (List (List Char))
  | [] => .ok []
  | (k, v) :: rest => do
    let key ← spellKey k
    let head ← spell v
    let tail ← spellEntries rest
    return (key ++ ':' :: ' ' :: head) :: tail

end

/-- The text of a value, however deep its lists are. -/
def display (v : Value) : Except IntegerTooLong Text :=
  match v with
  | .text t => .ok t
  | .date d => .ok (.ofChars d.write)
  | .timestamp t => .ok (.ofChars (t.write ' '))
  | v => v.spell.map .ofChars

/-- The text of a value as a threshold: a double that is an integer is written as one. -/
def displayThreshold (v : Value) : Except IntegerTooLong Text :=
  match v with
  | .float (.finite x) => .ok (.ofChars x.displayThreshold)
  | v => v.display

end Value

end Shortlist
