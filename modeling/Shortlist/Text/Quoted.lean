import Shortlist.Text.Basic
import Shortlist.Text.Printable
import Shortlist.Text.Utf8

/-!
# Quoted text

Messages show a text between quotes, so that blanks and control characters can be seen.  The
quotes are apostrophes, unless the text holds an apostrophe and no double quote.  The quote in
use and the backslash are escaped, and a character that is not printed as itself is written
by its code point in two, four or eight hexadecimal digits, as is a surrogate.  Bytes are
quoted alike, with a mark in front, and only ASCII is written as itself.
-/

namespace Shortlist.Text

/-- The lower-case hexadecimal digits of `n`, preceded by zeros up to the width. -/
def hexDigits (width n : Nat) : List Char :=
  let ds := Nat.toDigits 16 n
  List.replicate (width - ds.length) '0' ++ ds

/-- The escape of a character by its code point. -/
def escapeCode (n : Nat) : List Char :=
  if n ≤ 0xFF then '\\' :: 'x' :: hexDigits 2 n
  else if n ≤ 0xFFFF then '\\' :: 'u' :: hexDigits 4 n
  else '\\' :: 'U' :: hexDigits 8 n

/-- The text of one character between the given quotes. -/
def quoteChar (quote c : Char) : List Char :=
  if c = quote ∨ c = '\\' then ['\\', c]
  else if c = '\n' then ['\\', 'n']
  else if c = '\r' then ['\\', 'r']
  else if c = '\t' then ['\\', 't']
  else if isPrintable c then [c]
  else escapeCode c.toNat

/-- The text of one code point between the given quotes. -/
def quotePoint (quote : Char) (p : CodePoint) : List Char :=
  match p.char? with
  | some c => quoteChar quote c
  | none => escapeCode p.value

/-- The quote that encloses a text. -/
def quoteMark (t : Text) : Char :=
  if .ofChar '\'' ∈ t.points ∧ .ofChar '"' ∉ t.points then '"' else '\''

/-- A text between quotes. -/
def quoted (t : Text) : String :=
  String.ofList (t.quoteMark :: t.points.flatMap (quotePoint t.quoteMark) ++ [t.quoteMark])

/-- The text of one byte between the given quotes. -/
def quoteByte (quote : Char) (b : UInt8) : List Char :=
  if b < 0x80 then quoteChar quote (Char.ofNat b.toNat) else escapeCode b.toNat

/-- Bytes between quotes. -/
def quotedBytes (content : Bytes) : String :=
  let mark := quoteMark (ofChars (content.map fun b => Char.ofNat b.toNat))
  String.ofList ('b' :: mark :: content.flatMap (quoteByte mark) ++ [mark])

end Shortlist.Text
