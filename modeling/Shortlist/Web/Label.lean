import Shortlist.Text.Direction
import Shortlist.Text.Joining
import Shortlist.Web.Folding
import Shortlist.Web.Punycode

/-!
# Labels of host names

A name consists of labels with points between them.  A label that begins with `xn--` is the encoded
form of a label that holds other characters than ASCII; what it stands for must be folded and
composed already.  The rules below hold for what labels stand for: no mark comes first, an
invisible joiner stands only where it changes the shape of letters, and where one label is
written from right to left all labels keep to one direction.
-/

namespace Shortlist.Web

open Text

/-- A label of a name: the characters that it stands for. -/
abbrev Label := List Char

namespace Label

/-- The greatest number of characters of an encoded label, without what marks it. -/
def encodedLimit : Nat := 2000

/-- The greatest number of characters of a label that has to be encoded. -/
def plainLimit : Nat := 1000

/-- Whether a text is ASCII. -/
def isAscii (cs : List Char) : Bool := cs.all fun c => c.toNat < 0x80

/-- The label that an encoded text stands for.  It could not be written without encoding, and it is
folded and composed. -/
def decode? (cs : List Char) : Option Label := do
  if !isAscii cs || encodedLimit < cs.length then none
  let label ← Punycode.decode? cs
  if isAscii label || !label.all isFolded || compose label ≠ label then none
  return label

/-- The label that a part of a folded name stands for. -/
def ofFolded? (cs : List Char) : Option Label :=
  match cs with
  | 'x' :: 'n' :: '-' :: '-' :: encoded => decode? encoded
  | _ => if !isAscii cs && plainLimit < cs.length then none else some cs

/-- Whether a character is invisible and keeps letters from joining. -/
def isNonJoiner (c : Char) : Bool := c.toNat = 0x200C

/-- Whether a character is invisible and makes letters join. -/
def isJoiner (c : Char) : Bool := c.toNat = 0x200D

/-- The class of the sign that joins consonants. -/
def viramaClass : Nat := 9

/-- Whether invisible joiners stand where they may: behind the sign that joins consonants, and a
non-joiner also between letters that would join.  `before` is what comes before, in reverse. -/
def joinersFit (before : List Char) : List Char → Bool
  | [] => true
  | c :: rest =>
    let fits :=
      if isJoiner c || isNonJoiner c then
        before.head?.any (fun d => markClass d = viramaClass)
          || (isNonJoiner c && wouldJoin before rest)
      else true
    fits && joinersFit (c :: before) rest

/-- Whether a label begins with no mark and holds joiners only where they may stand. -/
def isWellFormed (l : Label) : Bool := !l.head?.any isMark && joinersFit [] l

/-- The labels of a folded name, if all of them are allowed. -/
def ofName? (name : List Char) : Option (List Label) := do
  let labels ← (name.splitOn '.').mapM ofFolded?
  if !labels.all isWellFormed then none
  if labels.any hasRightToLeft && !labels.all keepsDirection then none
  return labels

end Label

end Shortlist.Web
