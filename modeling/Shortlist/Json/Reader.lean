import Shortlist.Number.Numeral
import Shortlist.Value.Basic

/-!
# Reading JSON

A JSON document is read from its characters into a `Value`.  The reader accepts the words `NaN`,
`Infinity` and `-Infinity` besides the numbers of the standard.  Of the entries of an object with
equal keys the last one counts.  Integers stay exact and are refused beyond
`integerDigitLimit` digits; numerals with a fraction or an exponent are doubles.  Lists and objects
may stand inside one another up to `nestingLimit` levels.

A malformed document is reported with the place of the flaw.  Inside the reader a place is the
number of characters that are left, so no function has to count; `parse` turns it into an
offset with a line and a column.

## Contents

* `readString`, `readNumber`, `readValue`, each of which returns what it read and what is left.
* `parse`, which reads a whole document.
-/

namespace Shortlist.Json

/-- What is wrong with a document. -/
inductive Flaw where
  | expectingValue
  | expectingName
  | expectingColon
  | expectingComma
  | extraData
  | byteOrderMark
  | unterminatedString
  | controlCharacter
  | badEscape
  | badUnicodeEscape
deriving DecidableEq

/-- The words for a flaw. -/
def Flaw.message : Flaw → String
  | .expectingValue => "Expecting value"
  | .expectingName => "Expecting property name enclosed in double quotes"
  | .expectingColon => "Expecting ':' delimiter"
  | .expectingComma => "Expecting ',' delimiter"
  | .extraData => "Extra data"
  | .byteOrderMark => "Unexpected UTF-8 BOM (decode using utf-8-sig)"
  | .unterminatedString => "Unterminated string starting at"
  | .controlCharacter => "Invalid control character at"
  | .badEscape => "Invalid \\escape"
  | .badUnicodeEscape => "Invalid \\uXXXX escape"

/-- What a document is nested too deeply by. -/
inductive Nesting where
  | list
  | object
deriving DecidableEq

/-- The greatest number of lists and objects inside one another. -/
def nestingLimit : Nat := 980

/-- The message about a list or object inside too many others. -/
def Nesting.message (n : Nesting) : String :=
  "maximum recursion depth exceeded while decoding a JSON "
    ++ (match n with
      | .list => "array"
      | .object => "object") ++ " from a unicode string"

/-- Why reading stopped, a flaw being at a place given by the number of characters left. -/
inductive Stop where
  | flaw (flaw : Flaw) (left : Nat)
  | integerTooLong (digits : Nat)
  | tooDeep (nesting : Nesting)
deriving DecidableEq

/-- What a reader returns: a result with the characters left, or why it stopped. -/
abbrev Result (α : Type) := Except Stop (α × List Char)

/-- Stops in front of the given characters. -/
def stopAt {α : Type} (flaw : Flaw) (rest : List Char) : Result α := .error (.flaw flaw rest.length)

/-- Whether a character may stand between the parts of a document. -/
def isSpace (c : Char) : Bool := c = ' ' || c = '\t' || c = '\n' || c = '\r'

/-- The characters after leading space. -/
def skipSpace (cs : List Char) : List Char := cs.dropWhile isSpace

/-! ## Strings -/

/-- The code unit that four hexadecimal digits say.  A character must follow them. -/
def codeUnit? : List Char → Option (Nat × List Char)
  | a :: b :: c :: d :: e :: rest => do
    let a ← hexValue? a
    let b ← hexValue? b
    let c ← hexValue? c
    let d ← hexValue? d
    return (((a * 16 + b) * 16 + c) * 16 + d, e :: rest)
  | _ => none

/-- The character of an escape of one letter. -/
def simpleEscape? (c : Char) : Option Char :=
  if c = '"' then some '"'
  else if c = '\\' then some '\\'
  else if c = '/' then some '/'
  else if c = 'b' then some '\x08'
  else if c = 'f' then some '\x0c'
  else if c = 'n' then some '\n'
  else if c = 'r' then some '\r'
  else if c = 't' then some '\t'
  else none

/-- Whether a code unit is the first half of a character beyond `0xFFFF`. -/
def isHighSurrogate (n : Nat) : Bool := 0xD800 ≤ n && n ≤ 0xDBFF

/-- Whether a code unit is the second half of a character beyond `0xFFFF`. -/
def isLowSurrogate (n : Nat) : Bool := 0xDC00 ≤ n && n ≤ 0xDFFF

/-- Reads the rest of an escape by code unit, from after its letter.  `left` is the number of
characters left in front of the letter.  A first half joins with a second half that follows. -/
def readUnicodeEscape (left : Nat) (cs : List Char) : Result CodePoint :=
  match codeUnit? cs with
  | none => .error (.flaw .badUnicodeEscape left)
  | some (high, rest) =>
    if isHighSurrogate high && rest.length > 6 then
      match rest with
      | '\\' :: 'u' :: after =>
        match codeUnit? after with
        | none => .error (.flaw .badUnicodeEscape (after.length + 1))
        | some (low, rest') =>
          if isLowSurrogate low then
            .ok (.ofNat (0x10000 + (high - 0xD800) * 0x400 + (low - 0xDC00)), rest')
          else .ok (.ofNat high, rest)
      | _ => .ok (.ofNat high, rest)
    else .ok (.ofNat high, rest)

/-- Reads a string from after its opening quote; `start` is the number of characters left in
front of the quote.  Each step takes at least one character, so the length of the text is
enough fuel. -/
def readString (start : Nat) : Nat → List Char → Result (List CodePoint)
  | 0, _ => .error (.flaw .unterminatedString start)
  | fuel + 1, cs =>
    match cs with
    | [] => .error (.flaw .unterminatedString start)
    | c :: rest =>
      if c = '"' then .ok ([], rest)
      else if c.toNat < 0x20 then stopAt .controlCharacter cs
      else if c = '\\' then
        match rest with
        | [] => .error (.flaw .unterminatedString start)
        | e :: after =>
          if e = 'u' then
            (readUnicodeEscape rest.length after).bind fun (d, rest) =>
              (readString start fuel rest).map fun (ds, rest) => (d :: ds, rest)
          else
            match simpleEscape? e with
            | none => stopAt .badEscape cs
            | some d => (readString start fuel after).map fun (ds, rest) => (.ofChar d :: ds, rest)
      else (readString start fuel rest).map fun (ds, rest) => (.ofChar c :: ds, rest)

/-! ## Numbers -/

/-- Reads the digits of an integer: a zero alone, or digits that begin with another one. -/
def wholeDigits? (cs : List Char) : Option (List Char × List Char) :=
  match cs with
  | [] => none
  | c :: rest =>
    if c = '0' then some (['0'], rest)
    else if isDigit c then some (cs.takeWhile isDigit, cs.dropWhile isDigit)
    else none

/-- Reads a point and the digits after it, if there are both. -/
def fractionDigits (cs : List Char) : List Char × List Char :=
  match cs with
  | '.' :: c :: rest =>
    if isDigit c then ((c :: rest).takeWhile isDigit, (c :: rest).dropWhile isDigit) else ([], cs)
  | _ => ([], cs)

/-- Reads an exponent, if there is a complete one. -/
def exponent? (cs : List Char) : Option (Int × List Char) :=
  match cs with
  | e :: rest =>
    if e = 'e' ∨ e = 'E' then
      let (negative, digits) := match rest with
        | '-' :: ds => (true, ds)
        | '+' :: ds => (false, ds)
        | ds => (false, ds)
      let ds := digits.takeWhile isDigit
      if ds = [] then none
      else
        let n : Nat := natOfDigits ds
        some (if negative then -(n : Int) else (n : Int), digits.dropWhile isDigit)
    else none
  | [] => none

/-- Reads a number from after its sign. -/
def readUnsigned (negative : Bool) (cs : List Char) : Option (Result Value) :=
  (wholeDigits? cs).map fun (whole, rest) =>
    let (fraction, rest) := fractionDigits rest
    match fraction, exponent? rest with
    | [], none =>
      if whole.length > integerDigitLimit then .error (.integerTooLong whole.length)
      else
        let n : Nat := natOfDigits whole
        .ok (.int (if negative then -(n : Int) else (n : Int)), rest)
    | fraction, exponent =>
      let (power, rest) := exponent.getD (0, rest)
      .ok (.float (.ofDecimal negative ⟨natOfDigits (whole ++ fraction), power - fraction.length⟩),
        rest)

/-- Reads a number. -/
def readNumber? (cs : List Char) : Option (Result Value) :=
  match cs with
  | '-' :: rest => readUnsigned true rest
  | _ => readUnsigned false cs

/-! ## Values -/

/-- The words that are values. -/
def words : List (List Char × Value) := [
  ("null".toList, .null), ("true".toList, .bool true), ("false".toList, .bool false),
  ("NaN".toList, .float .nan), ("Infinity".toList, .float (.infinite false)),
  ("-Infinity".toList, .float (.infinite true))]

/-- Reads a word that is a value. -/
def readWord? (cs : List Char) : Option (Value × List Char) :=
  words.findSome? fun (word, value) =>
    if word.isPrefixOf cs then some (value, cs.drop word.length) else none

/-- Reads a value that is no list or object. -/
def readScalar (cs : List Char) : Result Value :=
  match cs with
  | '"' :: rest =>
    (readString cs.length (rest.length + 1) rest).map fun (s, rest) =>
      (.text ⟨s⟩, rest)
  | _ =>
    match readWord? cs with
    | some r => .ok r
    | none => (readNumber? cs).getD (stopAt .expectingValue cs)

mutual

/-- Reads a value inside which so many more levels are allowed.  Two units of fuel for each
character are enough. -/
def readValue (levels : Nat) : Nat → List Char → Result Value
  | 0, cs => stopAt .expectingValue cs
  | fuel + 1, cs =>
    match cs with
    | '[' :: rest =>
      if levels = 0 then .error (.tooDeep .list)
      else
        match skipSpace rest with
        | ']' :: after => .ok (.list [], after)
        | inner => (readItems (levels - 1) fuel inner).map fun (items, rest) => (.list items, rest)
    | '\x7b' :: rest =>
      if levels = 0 then .error (.tooDeep .object)
      else
        match skipSpace rest with
        | '\x7d' :: after => .ok (.mapping [], after)
        | inner =>
          (readMembers (levels - 1) fuel inner).map fun (members, rest) =>
            (.mapping (Entries.ofList members), rest)
    | _ => readScalar cs

/-- Reads the items of a list up to its end, of which there is at least one. -/
def readItems (levels : Nat) : Nat → List Char → Result (List Value)
  | 0, cs => stopAt .expectingValue cs
  | fuel + 1, cs =>
    (readValue levels fuel cs).bind fun (v, rest) =>
      match skipSpace rest with
      | ']' :: after => .ok ([v], after)
      | ',' :: after =>
        (readItems levels fuel (skipSpace after)).map fun (items, rest) => (v :: items, rest)
      | other => stopAt .expectingComma other

/-- Reads the members of an object up to its end, of which there is at least one. -/
def readMembers (levels : Nat) : Nat → List Char → Result (List (Key × Value))
  | 0, cs => stopAt .expectingName cs
  | fuel + 1, cs =>
    match cs with
    | '"' :: rest =>
      (readString cs.length (rest.length + 1) rest).bind fun (name, rest) =>
        match skipSpace rest with
        | ':' :: after =>
          (readValue levels fuel (skipSpace after)).bind fun (v, rest) =>
            let member : Key × Value := (.name ⟨name⟩, v)
            match skipSpace rest with
            | '\x7d' :: after => .ok ([member], after)
            | ',' :: after =>
              (readMembers levels fuel (skipSpace after)).map fun (members, rest) =>
                (member :: members, rest)
            | other => stopAt .expectingComma other
        | other => stopAt .expectingColon other
    | _ => stopAt .expectingName cs

end

/-! ## Documents -/

/-- A flaw of a document, at an offset and on the line and column of that offset. -/
structure Malformed where
  flaw : Flaw
  line : Nat
  column : Nat
  offset : Nat
deriving DecidableEq

/-- The message about a malformed document. -/
def Malformed.message (m : Malformed) : String :=
  m.flaw.message ++ ": line " ++ toString m.line ++ " column " ++ toString m.column ++ " (char "
    ++ toString m.offset ++ ")"

/-- The flaw at an offset of a text. -/
def Malformed.locate (flaw : Flaw) (cs : List Char) (offset : Nat) : Malformed :=
  let before := cs.take offset
  ⟨flaw, before.count '\n' + 1, (before.reverse.takeWhile (· ≠ '\n')).length + 1, offset⟩

/-- Why a document was refused. -/
inductive Failure where
  | malformed (malformed : Malformed)
  | longInteger (integer : LongInteger)
  | tooDeep (nesting : Nesting)
deriving DecidableEq

/-- Reads a whole document. -/
def parse (cs : List Char) : Except Failure Value :=
  let outcome : Except Stop Value :=
    if cs.head? = some (Char.ofNat 0xFEFF) then .error (.flaw .byteOrderMark cs.length)
    else
      (readValue nestingLimit (2 * cs.length + 2) (skipSpace cs)).bind fun (v, rest) =>
        match skipSpace rest with
        | [] => .ok v
        | other => .error (.flaw .extraData other.length)
  match outcome with
  | .ok v => .ok v
  | .error (.flaw flaw left) => .error (.malformed (.locate flaw cs (cs.length - left)))
  | .error (.integerTooLong digits) => .error (.longInteger ⟨digits⟩)
  | .error (.tooDeep nesting) => .error (.tooDeep nesting)

end Shortlist.Json
