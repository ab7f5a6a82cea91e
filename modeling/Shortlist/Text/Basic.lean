/-!
# Texts

A text is a list of code points.  Most code points are characters.  The others are surrogates, each
of which is half of a pair that stands for one character; an escape in a document can name one on
its own, and the text then holds it like any other code point.  Such a text can be compared, joined
and shown, but no bytes encode it.

## Contents

* `CodePoint`, with `CodePoint.char?` for the character that it is.
* `Text`, into which every string coerces, and `Text.string?` for the way back.
-/

namespace Shortlist

/-- The number of a character or of a surrogate. -/
structure CodePoint where
  value : Nat
  value_lt : value < 0x110000
deriving DecidableEq

namespace CodePoint

/-- The code point of a character. -/
def ofChar (c : Char) : CodePoint :=
  ⟨c.toNat, by
    have h := c.valid
    simp only [UInt32.isValidChar, Nat.isValidChar] at h
    simp only [Char.toNat]
    omega⟩

instance : Coe Char CodePoint := ⟨ofChar⟩

instance : Hashable CodePoint := ⟨fun p => hash p.value⟩

instance : Inhabited CodePoint := ⟨'\x00'⟩

/-- The code point of a number; a number that is too great has none, and zero stands for it. -/
def ofNat (n : Nat) : CodePoint := if h : n < 0x110000 then ⟨n, h⟩ else ⟨0, by decide⟩

/-- The character that a code point is, unless it is a surrogate. -/
def char? (p : CodePoint) : Option Char :=
  if h : p.value.isValidChar then some (Char.ofNatAux p.value h) else none

/-- Whether a code point is half of a pair. -/
def isSurrogate (p : CodePoint) : Bool := 0xD800 ≤ p.value && p.value < 0xE000

end CodePoint

/-- A sequence of code points. -/
structure Text where
  points : List CodePoint
deriving DecidableEq, Hashable

namespace Text

/-- The text of characters. -/
def ofChars (cs : List Char) : Text := ⟨cs.map .ofChar⟩

/-- The text of a string. -/
def ofString (s : String) : Text := ofChars s.toList

instance : Coe String Text := ⟨ofString⟩

instance : Inhabited Text := ⟨⟨[]⟩⟩

instance : Append Text := ⟨fun s t => ⟨s.points ++ t.points⟩⟩

/-- Whether a text holds nothing. -/
def isEmpty (t : Text) : Bool := t.points.isEmpty

/-- The characters of a text that holds nothing else. -/
def chars? (t : Text) : Option (List Char) := t.points.mapM CodePoint.char?

/-- The string of a text that holds characters only. -/
def string? (t : Text) : Option String := t.chars?.map String.ofList

/-- The texts with a separator between them. -/
def join (separator : Text) (parts : List Text) : Text :=
  ⟨separator.points.intercalate (parts.map (·.points))⟩

/-- The string of a text in which every surrogate is replaced by three replacement characters, one
for each byte that would be needed for it. -/
def replacingSurrogates (t : Text) : String :=
  String.ofList <| t.points.flatMap fun p =>
    match p.char? with
    | some c => [c]
    | none => List.replicate 3 (Char.ofNat 0xFFFD)

end Text

end Shortlist
