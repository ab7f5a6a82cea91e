import Shortlist.Text.CharRange

/-!
# Blank characters

Lines and dates are trimmed of blanks at both ends, and a line of blanks alone counts as empty.
A blank is a character that the Unicode standard lists as white space, or one of the four
information separators.
-/

namespace Shortlist.Text

/-- The code points of the blank characters. -/
def blankRanges : CharRanges := [
  (0x9, 0xD), (0x1C, 0x20), (0x85, 0x85), (0xA0, 0xA0), (0x1680, 0x1680), (0x2000, 0x200A),
  (0x2028, 0x2029), (0x202F, 0x202F), (0x205F, 0x205F), (0x3000, 0x3000)]

/-- Whether a character is blank. -/
def isBlank (c : Char) : Bool := blankRanges.holds c

/-- The text without the blanks at its two ends. -/
def trim (cs : List Char) : List Char :=
  ((cs.dropWhile isBlank).reverse.dropWhile isBlank).reverse

end Shortlist.Text
