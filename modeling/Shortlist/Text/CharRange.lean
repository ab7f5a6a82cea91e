/-!
# Sets of characters as ranges

The character classes of this library are properties of the Unicode standard.  Each is a list of
closed ranges of code points, and a character belongs to the class when a range holds its code.
-/

namespace Shortlist.Text

/-- A set of characters given by closed ranges of code points. -/
abbrev CharRanges := List (Nat × Nat)

namespace CharRanges

/-- Whether a range of the set holds the code point of a number. -/
def holdsCode (ranges : CharRanges) (n : Nat) : Bool := ranges.any fun r => r.1 ≤ n && n ≤ r.2

/-- Whether a range of the set holds the character. -/
def holds (ranges : CharRanges) (c : Char) : Bool := ranges.holdsCode c.toNat

end CharRanges

end Shortlist.Text
