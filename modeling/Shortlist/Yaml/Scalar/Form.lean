import Shortlist.Yaml.Scalar.Time
import Shortlist.Yaml.Tag

/-!
# What scalars look like

A plain scalar without a tag has the type that it looks like: null, a boolean, an integer, a double,
a date or timestamp, or else a text.  A line end behind it is left out of account.  Integers may be
written in base 2, 8, 16 or 60, and underscores may stand between digits.
-/

namespace Shortlist.Yaml

/-- Whether a character is a decimal digit or an underscore. -/
def isDigitMark (c : Char) : Bool := isDigit c || c = '_'

/-- The words for booleans; of each there is a lower-case, a capitalised and an upper-case form. -/
def booleanWords : List (String × Bool) :=
  [("yes", true), ("no", false), ("true", true), ("false", false), ("on", true), ("off", false)]

/-- The three forms of a word. -/
def wordForms (word : String) : List (List Char) :=
  let cs := word.toList
  [cs, (cs.take 1).map Char.toUpper ++ cs.drop 1, cs.map Char.toUpper]

/-- Whether a text is a word for a boolean. -/
def looksBoolean (cs : List Char) : Bool := booleanWords.any fun w => (wordForms w.1).contains cs

/-- Whether a text stands for null. -/
def looksNull (cs : List Char) : Bool := cs = [] || cs = ['~'] || (wordForms "null").contains cs

/-- Whether a text is a digit and further digits and underscores. -/
def isNumeral (cs : List Char) : Bool :=
  match cs with
  | c :: rest => isDigit c && rest.all isDigitMark
  | [] => false

/-- Whether texts between colons are places in base 60. -/
def arePlaces (parts : List (List Char)) : Bool :=
  !parts.isEmpty && parts.all fun p =>
    match p with
    | [a] => isDigit a
    | [a, b] => '0' ≤ a && a ≤ '5' && isDigit b
    | _ => false

/-- Whether a text looks like an integer. -/
def looksInteger (cs : List Char) : Bool :=
  match (Numeral.splitSign cs).2 with
  | [] => false
  | ['0'] => true
  | '0' :: 'b' :: rest => !rest.isEmpty && rest.all fun c => c = '0' || c = '1' || c = '_'
  | '0' :: 'x' :: rest => !rest.isEmpty && rest.all fun c => (hexValue? c).isSome || c = '_'
  | '0' :: rest => rest.all fun c => ('0' ≤ c && c ≤ '7') || c = '_'
  | rest =>
    match rest.splitOn ':' with
    | [whole] => isNumeral whole
    | first :: parts => isNumeral first && arePlaces parts
    | [] => false

/-- Whether a text is empty or an exponent with a sign. -/
def isExponent (cs : List Char) : Bool :=
  match cs with
  | [] => true
  | e :: sign :: digits =>
    (e = 'e' || e = 'E') && (sign = '-' || sign = '+') && !digits.isEmpty && digits.all isDigit
  | _ => false

/-- Whether a text is digits after a point, and perhaps an exponent. -/
def isFraction (cs : List Char) : Bool := isExponent (cs.dropWhile isDigitMark)

/-- Whether a text is one of the words for a double that is not finite. -/
def looksSpecial (word mixed : String) (cs : List Char) : Bool :=
  match cs with
  | '.' :: rest => [word.toList, word.toList.map Char.toUpper, mixed.toList].contains rest
  | _ => false

/-- Whether a text looks like a double. -/
def looksDouble (cs : List Char) : Bool :=
  let rest := (Numeral.splitSign cs).2
  let whole := rest.takeWhile (· ≠ '.')
  match rest.dropWhile (· ≠ '.') with
  | [] => false
  | _ :: after =>
    if whole.isEmpty then
      looksSpecial "inf" "Inf" rest || looksSpecial "nan" "NaN" cs
        || (cs.head? = some '.' && after.head?.any isDigit && isFraction after)
    else
      match whole.splitOn ':' with
      | [numeral] => isNumeral numeral && isFraction after
      | first :: parts => isNumeral first && arePlaces parts && after.all isDigitMark
      | [] => false

/-- A text without the line end behind it. -/
def withoutLineEnd (cs : List Char) : List Char :=
  if cs.getLast? = some '\n' then cs.dropLast else cs

/-- The type that a text looks like. -/
def Tag.ofForm (text : Text) : Tag :=
  match text.chars? with
  | none => .str
  | some cs =>
    if cs = ['\n'] then .str
    else
      let cs := withoutLineEnd cs
      if looksBoolean cs then .bool
      else if looksDouble cs then .float
      else if looksInteger cs then .int
      else if cs = ['<', '<'] then .merge
      else if looksNull cs then .null
      else if looksTime cs then .timestamp
      else if cs = ['='] then .value
      else if cs = ['!'] || cs = ['&'] || cs = ['*'] then .other
      else .str

end Shortlist.Yaml
