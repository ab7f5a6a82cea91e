import Shortlist.Yaml.Fault

/-!
# A place in a YAML text

A `Cursor` is what is left of a text with the place where it stands.  The line feed, the next-line
character and the two separators of Unicode end a line; a byte order mark takes no column.

Of a file that cannot be read to its end only a part is known.  Its text is then cut: whoever has
to look beyond the last character of the part meets the fault `Fault.unread`.  `Cursor.reach`
says how far one has to look.
-/

namespace Shortlist.Yaml

/-- A place in a text of `size` characters; the text goes on after them if it is cut. -/
structure Cursor where
  rest : List Char
  size : Nat
  isCut : Bool
  index : Nat := 0
  line : Nat := 0
  column : Nat := 0

/-- Whether a character ends a line. -/
def isBreak (c : Char) : Bool :=
  c = '\n' || c.toNat = 0x85 || c.toNat = 0x2028 || c.toNat = 0x2029

/-- Whether a character is the byte order mark. -/
def isByteOrderMark (c : Char) : Bool := c.toNat = 0xFEFF

/-- Whether a character is a space or a tab. -/
def isGap (c : Char) : Bool := c = ' ' || c = '\t'

namespace Cursor

/-- The beginning of a text. -/
def ofText (text : List Char) (isCut : Bool) : Cursor :=
  { rest := text, size := text.length, isCut }

/-- Looks at the next `n` characters, which are not all known if the text is cut before. -/
def reach (c : Cursor) (n : Nat) : Except Fault Unit :=
  if c.isCut && c.rest[n - 1]?.isNone then .error .unread else .ok ()

/-- The character that is `n` characters ahead. -/
def ahead? (c : Cursor) (n : Nat) : Option Char := c.rest[n]?

/-- The next character. -/
def next? (c : Cursor) : Option Char := c.rest.head?

/-- Whether the next character is the given one. -/
def isAt (c : Cursor) (x : Char) : Bool := c.next? = some x

/-- Whether the text is at its end or at the end of a line. -/
def atLineEnd (c : Cursor) : Bool := c.next?.all isBreak

/-- Whether what comes next is the end of the text or of a line, or a space. -/
def atSpace (c : Cursor) : Bool := c.next?.all fun x => x = ' ' || isBreak x

/-- Whether what is `n` characters ahead is the end of the text or of a line, a space or a tab. -/
def isBlankAhead (c : Cursor) (n : Nat) : Bool := (c.ahead? n).all fun x => isGap x || isBreak x

/-- The place after the next character. -/
def step (c : Cursor) : Cursor :=
  match c.rest with
  | [] => c
  | x :: rest =>
    if isBreak x then { c with rest, index := c.index + 1, line := c.line + 1, column := 0 }
    else if isByteOrderMark x then { c with rest, index := c.index + 1 }
    else { c with rest, index := c.index + 1, column := c.column + 1 }

/-- The place after the next `n` characters. -/
def advance : Nat → Cursor → Cursor
  | 0, c => c
  | n + 1, c => advance n c.step

/-- The characters up to the first one without a property, and the place after them. -/
def span (c : Cursor) (p : Char → Bool) : List Char × Cursor :=
  let taken := c.rest.takeWhile p
  (taken, c.advance taken.length)

/-- The place after the characters with a property. -/
def skip (c : Cursor) (p : Char → Bool) : Cursor := (c.span p).2

/-- The place after spaces. -/
def skipSpaces (c : Cursor) : Cursor := c.skip (· = ' ')

/-- The place at the end of the line. -/
def skipLine (c : Cursor) : Cursor := c.skip (!isBreak ·)

/-- The place after spaces and a comment. -/
def skipComment (c : Cursor) : Cursor :=
  let c := c.skipSpaces
  if c.isAt '#' then c.skipLine else c

/-- The line end at which the text stands, as it counts in a scalar, and the place after it. -/
def lineEnd (c : Cursor) : List Char × Cursor :=
  match c.next? with
  | some x =>
    if x = '\n' || x.toNat = 0x85 then (['\n'], c.step)
    else if isBreak x then ([x], c.step) else ([], c)
  | none => ([], c)

/-- Whether the text stands at a mark of three characters that begins or ends a document. -/
def atMark (c : Cursor) (mark : Char) : Except Fault Bool := do
  c.reach 3
  if c.rest.take 3 = [mark, mark, mark] then
    c.reach 4
    return c.isBlankAhead 3
  else return false

/-- Whether the text stands at the beginning or at the end of a document. -/
def atDocumentMark (c : Cursor) : Except Fault Bool := do
  return (← c.atMark '-') || (← c.atMark '.')

end Cursor

end Shortlist.Yaml
