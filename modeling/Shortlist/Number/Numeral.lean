import Shortlist.Number.Double
import Shortlist.Text.Blank
import Shortlist.Text.DecimalDigit
import Shortlist.Text.Quoted

/-!
# Numbers written as texts

A text is a numeral if it says a number and nothing else.  Blanks may stand around the number,
and its digits may be those of any script.  `Numeral.integer` reads integers in a base of at most
sixteen, whose mark (`0x` and the like) may stand in front of the digits; `Numeral.double` reads
decimal fractions with an exponent, and the words for what is not finite.

An integer in base ten may have up to `integerDigitLimit` digits.
-/

namespace Shortlist

/-- The greatest number of digits of an integer that is written or read as text. -/
def integerDigitLimit : Nat := 4300

/-- An integer that has too many digits to be read. -/
structure LongInteger where
  digits : Nat
deriving DecidableEq

/-- The message about an integer that has too many digits. -/
def LongInteger.message (i : LongInteger) : String :=
  "Exceeds the limit (4300 digits) for integer string conversion: value has "
    ++ toString i.digits ++ " digits; use sys.set_int_max_str_digits() to increase the limit"

/-- The value of a hexadecimal digit. -/
def hexValue? (c : Char) : Option Nat :=
  if '0' ≤ c ∧ c ≤ '9' then some (c.toNat - '0'.toNat)
  else if 'a' ≤ c ∧ c ≤ 'f' then some (c.toNat - 'a'.toNat + 10)
  else if 'A' ≤ c ∧ c ≤ 'F' then some (c.toNat - 'A'.toNat + 10)
  else none

/-- Whether a character is an ASCII digit. -/
def isDigit (c : Char) : Bool := '0' ≤ c && c ≤ '9'

/-- The natural number that ASCII digits say. -/
def natOfDigits (ds : List Char) : Nat :=
  ds.foldl (fun n c => n * 10 + (c.toNat - '0'.toNat)) 0

namespace Numeral

/-- A code point as a numeral takes it: blanks are spaces, the digits of any script are those of
ASCII, and a question mark stands for what is no part of a number. -/
def plainChar (p : CodePoint) : Char :=
  match p.char? with
  | none => '?'
  | some c =>
    if c.toNat < 0x7F then c
    else if Text.isBlank c then ' '
    else ((Text.digitValue? c).map Nat.digitChar).getD '?'

/-- Whether a character may stand around a number. -/
def isPad (c : Char) : Bool := c = ' ' || ('\t' ≤ c && c ≤ '\r')

/-- The characters of a numeral, without what stands around the number. -/
def plainChars (t : Text) : List Char :=
  (((t.points.map plainChar).dropWhile isPad).reverse.dropWhile isPad).reverse

/-- Splits off a sign: whether it is a minus, and what follows. -/
def splitSign (cs : List Char) : Bool × List Char :=
  match cs with
  | '-' :: rest => (true, rest)
  | '+' :: rest => (false, rest)
  | _ => (false, cs)

/-! ## Integers -/

/-- What follows the mark of a base, if the mark is there. -/
def dropBaseMark (base : Nat) (cs : List Char) : List Char :=
  match cs with
  | '0' :: mark :: rest =>
    let marks :=
      if base = 16 then ['x', 'X'] else if base = 8 then ['o', 'O']
      else if base = 2 then ['b', 'B'] else []
    if marks.contains mark then rest else cs
  | _ => cs

/-- Why a text is no integer. -/
inductive Flaw where
  | malformed
  | tooLong (integer : LongInteger)
deriving DecidableEq

/-- The integer that a text says in a base. -/
def integer (base : Nat) (t : Text) : Except Flaw Int :=
  let (negative, rest) := splitSign (plainChars t)
  let rest := dropBaseMark base rest
  let values := (rest.map hexValue?).takeWhile (·.any (· < base))
  if base = 10 ∧ integerDigitLimit < values.length then .error (.tooLong ⟨values.length⟩)
  else if values.isEmpty ∨ values.length < rest.length then .error .malformed
  else
    let n : Int := (values.foldl (fun n d => n * base + d.getD 0) 0 : Nat)
    .ok (if negative then -n else n)

/-- The message about a text that is no integer in a base; a long one is cut off. -/
def notInteger (base : Nat) (t : Text) : String :=
  "invalid literal for int() with base " ++ toString base ++ ": "
    ++ String.ofList (t.quoted.toList.take 200)

/-! ## Doubles -/

/-- The words for the doubles that are not finite, without a sign. -/
def doubleWords : List (String × (Bool → Double)) :=
  [("inf", .infinite), ("infinity", .infinite), ("nan", fun _ => .nan)]

/-- The exponent that fills the text, zero if nothing is written. -/
def exponent? (cs : List Char) : Option Int :=
  match cs with
  | [] => some 0
  | e :: rest =>
    let (negative, digits) := splitSign rest
    if (e = 'e' ∨ e = 'E') ∧ !digits.isEmpty ∧ digits.all isDigit then
      let n : Int := natOfDigits digits
      some (if negative then -n else n)
    else none

/-- The decimal number that digits, a point and an exponent say. -/
def decimal? (cs : List Char) : Option Decimal :=
  let whole := cs.takeWhile isDigit
  let rest := cs.drop whole.length
  let (fraction, rest) := match rest with
    | '.' :: after => (after.takeWhile isDigit, after.dropWhile isDigit)
    | _ => ([], rest)
  if whole.isEmpty && fraction.isEmpty then none
  else (exponent? rest).map fun e => ⟨natOfDigits (whole ++ fraction), e - fraction.length⟩

/-- The double that a text says. -/
def double? (t : Text) : Option Double :=
  let (negative, rest) := splitSign (plainChars t)
  match doubleWords.find? fun w => w.1.toList = rest.map Char.toLower with
  | some (_, value) => some (value negative)
  | none => (decimal? rest).map (Double.ofDecimal negative)

/-- The message about a text that is no double. -/
def notDouble (t : Text) : String := "could not convert string to float: " ++ t.quoted

end Numeral

end Shortlist
