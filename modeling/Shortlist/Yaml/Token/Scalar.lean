import Shortlist.Yaml.Token.Property

/-!
# Scalars

A scalar is written plainly, in quotes, or as an indented block.  Line ends inside a scalar are
folded: a single one stands for a space and further ones for themselves, except in a literal block.

The readers below gather what they have read in reverse.
-/

namespace Shortlist.Yaml

open Cursor

/-- Where a scalar stands. -/
structure Place where
  inFlow : Bool
  indent : Int

/-- The text of folded line ends: the first one and the ones after it. -/
def foldBreaks (first : List Char) (others : List (List Char)) : List Char :=
  (if first ≠ ['\n'] then first else if others.isEmpty then [' '] else []) ++ others.flatten

/-! ## Plain scalars -/

/-- Whether a plain scalar ends in front of the next character. -/
def endsPlain (inFlow : Bool) (cs : List Char) : Bool :=
  match cs with
  | [] => true
  | c :: rest =>
    isGap c || isBreak c
      || (c = ':' && rest.head?.all fun x =>
          isGap x || isBreak x || (inFlow && ",[]\x7b\x7d".toList.contains x))
      || (inFlow && ",?[]\x7b\x7d".toList.contains c)

/-- The number of characters of a plain scalar up to its end or the next gap, `n` of which have been
counted. -/
def plainLength (inFlow : Bool) (n : Nat) : List Char → Nat
  | [] => n
  | c :: rest => if endsPlain inFlow (c :: rest) then n else plainLength inFlow (n + 1) rest

/-- The line ends among the spaces and line ends that follow a line end inside a plain scalar, after
those of `found`; there is no answer if a document mark comes.  `fuel` bounds the number of
characters. -/
def plainBreaks : Nat → List (List Char) → Cursor →
    Except Fault (Option (List (List Char)) × Cursor)
  | 0, found, c => .ok (some found.reverse, c)
  | fuel + 1, found, c => do
    match c.next? with
    | none => return (some found.reverse, c)
    | some x =>
      if x = ' ' then plainBreaks fuel found c.step
      else if isBreak x then
        let (text, c) := c.lineEnd
        if ← c.atDocumentMark then return (none, c)
        plainBreaks fuel (text :: found) c
      else return (some found.reverse, c)

/-- The gap after a part of a plain scalar: its text, and whether it holds a line end.  There is no
text in front of a document mark. -/
def plainGap (c : Cursor) : Except Fault (List Char × Bool × Cursor) := do
  let (spaces, c) := c.span (· = ' ')
  if !c.next?.any isBreak then return (spaces, false, c)
  let (first, c) := c.lineEnd
  if ← c.atDocumentMark then return ([], true, c)
  match ← plainBreaks (c.size + 1) [] c with
  | (none, c) => return ([], true, c)
  | (some others, c) => return (foldBreaks first others, true, c)

/-- Reads the parts of a plain scalar after the characters of `before` and a gap, and says whether a
line end was met after the last part.  `fuel` bounds the number of parts. -/
def plainParts (place : Place) : Nat → List Char → List Char → Bool → Cursor →
    Except Fault (List Char × Bool × Cursor)
  | 0, before, _, newLine, c => .ok (before.reverse, newLine, c)
  | fuel + 1, before, gap, newLine, c => do
    c.reach 1
    let length := if c.isAt '#' then 0 else plainLength place.inFlow 0 c.rest
    c.reach (if c.ahead? length = some ':' then length + 2 else length + 1)
    if length = 0 then return (before.reverse, newLine, c)
    let text := (c.rest.take length).reverse ++ gap.reverse ++ before
    let (gap, newLine, after) ← plainGap (c.advance length)
    after.reach 1
    if gap = [] || after.isAt '#' || !(place.inFlow || place.indent ≤ after.column) then
      return (text.reverse, newLine, after)
    plainParts place fuel text gap newLine after

/-- Reads a plain scalar.  The flag says whether it ended with a line. -/
def scanPlain (place : Place) (c : Cursor) : Except Fault (Token × Bool × Cursor) := do
  let (text, newLine, after) ← plainParts place (c.size + 1) [] [] false c
  return (.scalar (.ofChars text) true, newLine, after)

/-! ## Scalars in quotes -/

/-- The character that an escape of one letter stands for. -/
def escapeValue? (c : Char) : Option Char :=
  if c = '0' then some '\x00'
  else if c = 'a' then some '\x07'
  else if c = 'b' then some '\x08'
  else if c = 't' ∨ c = '\t' then some '\t'
  else if c = 'n' then some '\n'
  else if c = 'v' then some '\x0b'
  else if c = 'f' then some '\x0c'
  else if c = 'r' then some '\x0d'
  else if c = 'e' then some '\x1b'
  else if c = ' ' ∨ c = '"' ∨ c = '\\' ∨ c = '/' then some c
  else if c = 'N' then some (Char.ofNat 0x85)
  else if c = '_' then some (Char.ofNat 0xA0)
  else if c = 'L' then some (Char.ofNat 0x2028)
  else if c = 'P' then some (Char.ofNat 0x2029)
  else none

/-- The number of digits of an escape by code. -/
def escapeDigits? (c : Char) : Option Nat :=
  if c = 'x' then some 2 else if c = 'u' then some 4 else if c = 'U' then some 8 else none

/-- The code point of a code. -/
def pointOfCode (code : Nat) : Except Fault CodePoint :=
  if h : code < 0x110000 then .ok ⟨code, h⟩ else .error (.noCodePoint code)

/-- Reads the line ends that follow a line end in quotes, after those of `found`.  `fuel` bounds
their number. -/
def quotedBreaks : Nat → List (List Char) → Cursor → Except Fault (List (List Char) × Cursor)
  | 0, found, c => .ok (found.reverse, c)
  | fuel + 1, found, c => do
    if ← c.atDocumentMark then noToken
    let c := c.skip isGap
    if c.next?.any isBreak then
      let (text, c) := c.lineEnd
      quotedBreaks fuel (text :: found) c
    else return (found.reverse, c)

/-- The number that hexadecimal digits say: the next one, `n` characters ahead, and `count` after
it. -/
def hexCode (c : Cursor) (n : Nat) : Nat → Nat → Except Fault Nat
  | 0, code => .ok code
  | count + 1, code => do
    let digit ← hexAhead c n
    hexCode c (n + 1) count (code * 16 + digit)

/-- Reads an escape after its backslash. -/
def scanEscape (c : Cursor) : Except Fault (List CodePoint × Cursor) := do
  c.reach 1
  match c.next? with
  | none => noToken
  | some x =>
    match escapeValue? x, escapeDigits? x with
    | some value, _ => return ([.ofChar value], c.step)
    | none, some count =>
      let point ← pointOfCode (← hexCode c.step 0 count 0)
      return ([point], c.advance (count + 1))
    | none, none =>
      if isBreak x then
        let (others, c) ← quotedBreaks (c.size + 1) [] c.lineEnd.2
        return (others.flatten.map .ofChar, c)
      else noToken

/-- Reads the gap between parts of a scalar in quotes. -/
def quotedGap (c : Cursor) : Except Fault (List Char × Cursor) := do
  let (spaces, c) := c.span isGap
  c.reach 1
  match c.next? with
  | none => noToken
  | some x =>
    if isBreak x then
      let (first, c) := c.lineEnd
      let (others, c) ← quotedBreaks (c.size + 1) [] c
      return (foldBreaks first others, c)
    else return (spaces, c)

/-- Reads what is in quotes after the code points of `before`, up to the closing quote.  `fuel`
bounds the number of steps. -/
def quotedText (double : Bool) : Nat → List CodePoint → Cursor →
    Except Fault (List CodePoint × Cursor)
  | 0, _, _ => noToken
  | fuel + 1, before, c => do
    c.reach 1
    match c.next? with
    | none => noToken
    | some x =>
      if x = '\'' && !double then
        c.reach 2
        if c.ahead? 1 = some '\'' then quotedText double fuel (.ofChar '\'' :: before) (c.advance 2)
        else return (before.reverse, c)
      else if x = '"' && double then return (before.reverse, c)
      else if x = '\\' && double then
        let (text, c) ← scanEscape c.step
        quotedText double fuel (text.reverse ++ before) c
      else if isGap x || isBreak x then
        let (text, c) ← quotedGap c
        quotedText double fuel ((text.map .ofChar).reverse ++ before) c
      else quotedText double fuel (.ofChar x :: before) c.step

/-- Reads a scalar in quotes. -/
def scanQuoted (double : Bool) (c : Cursor) : Except Fault (Token × Cursor) := do
  let (text, c) ← quotedText double (c.size + 1) [] c.step
  return (.scalar ⟨text⟩ false, c.step)

/-! ## Block scalars -/

/-- What happens to the line ends after a block scalar. -/
inductive Chomping where
  | clip
  | keep
  | strip
deriving DecidableEq

/-- Reads a mark of chomping, if there is one. -/
def scanChomping (c : Cursor) : Option Chomping × Cursor :=
  match c.next? with
  | some '+' => (some .keep, c.step)
  | some '-' => (some .strip, c.step)
  | _ => (none, c)

/-- Reads a digit of indentation, if there is one; zero is none. -/
def scanIndentation (c : Cursor) : Except Fault (Option Nat × Cursor) := do
  c.reach 1
  match c.next? with
  | some x =>
    if x = '0' then noToken
    else if isDigit x then return (some (x.toNat - '0'.toNat), c.step)
    else return (none, c)
  | none => return (none, c)

/-- Reads the head of a block scalar after its mark. -/
def scanBlockHead (c : Cursor) : Except Fault (Chomping × Option Nat × Cursor) := do
  let (chomping, c) := scanChomping c
  let (indentation, c) ← scanIndentation c
  let (chomping, c) := match chomping, indentation with
    | none, some _ => scanChomping c
    | _, _ => (chomping, c)
  expectSpace c
  return (chomping.getD .clip, indentation, c)

/-- The empty lines in front of a block scalar, after those of `found`, and the greatest column of a
space among them.  `fuel` bounds the number of characters. -/
def leadingBreaks : Nat → List (List Char) → Nat → Cursor → List (List Char) × Nat × Cursor
  | 0, found, deepest, c => (found.reverse, deepest, c)
  | fuel + 1, found, deepest, c =>
    match c.next? with
    | none => (found.reverse, deepest, c)
    | some x =>
      if x = ' ' then leadingBreaks fuel found (max deepest c.step.column) c.step
      else if isBreak x then
        let (text, c) := c.lineEnd
        leadingBreaks fuel (text :: found) deepest c
      else (found.reverse, deepest, c)

/-- The place after spaces in front of a column. -/
def skipIndentation (indent : Nat) (c : Cursor) : Cursor :=
  c.advance (((c.rest.take (indent - c.column)).takeWhile (· = ' ')).length)

/-- The empty lines in front of a line of a block scalar, after those of `found`.  `fuel` bounds
their number. -/
def blockBreaks (indent : Nat) : Nat → List (List Char) → Cursor → List (List Char) × Cursor
  | 0, found, c => (found.reverse, skipIndentation indent c)
  | fuel + 1, found, c =>
    let c := skipIndentation indent c
    if c.next?.any isBreak then
      let (text, c) := c.lineEnd
      blockBreaks indent fuel (text :: found) c
    else (found.reverse, c)

/-- What has been read of a block scalar: its lines in reverse, the end of the last one, and the
empty lines after it. -/
structure BlockText where
  lines : List (List Char)
  ending : List Char
  empty : List (List Char)

/-- The text of a block scalar. -/
def BlockText.chomped (b : BlockText) (chomping : Chomping) : List Char :=
  b.lines.reverse.flatten ++ match chomping with
    | .strip => []
    | .clip => b.ending
    | .keep => b.ending ++ b.empty.flatten

/-- Whether the next character is a space or a tab. -/
def atGap (c : Cursor) : Bool := c.next?.any isGap

/-- Reads the lines of a block scalar after the given ones.  A line end between two lines is folded
if the scalar is and neither line begins with a gap.  `fuel` bounds the number of lines. -/
def blockLines (folded : Bool) (indent : Nat) : Nat → BlockText → Cursor → BlockText × Cursor
  | 0, b, c => (b, c)
  | fuel + 1, b, c =>
    let startsBlank := atGap c
    let (line, c) := c.span (!isBreak ·)
    let (ending, c) := c.lineEnd
    let (empty, c) := blockBreaks indent (c.size + 1) [] c
    let lines := line :: b.empty.flatten :: b.lines
    if c.column = indent && c.next?.isSome then
      let joint :=
        if folded && ending = ['\n'] && !startsBlank && !atGap c then
          if empty.isEmpty then [' '] else []
        else ending
      blockLines folded indent fuel ⟨joint :: lines, [], empty⟩ c
    else (⟨lines, ending, empty⟩, c)

/-- Reads a block scalar. -/
def scanBlock (folded : Bool) (place : Place) (c : Cursor) : Except Fault (Token × Cursor) := do
  let (chomping, indentation, c) ← scanBlockHead c.step
  let c ← scanRestOfLine c
  let least := (max place.indent 1).toNat
  let (empty, indent, c) := match indentation with
    | none =>
      let (empty, deepest, c) := leadingBreaks (c.size + 1) [] 0 c
      (empty, max least deepest, c)
    | some n =>
      let indent := least + n - 1
      let (empty, c) := blockBreaks indent (c.size + 1) [] c
      (empty, indent, c)
  let start : BlockText := ⟨[], [], empty⟩
  let (text, c) :=
    if c.column = indent && c.next?.isSome then blockLines folded indent (c.size + 1) start c
    else (start, c)
  return (.scalar (.ofChars (text.chomped chomping)) false, c)

end Shortlist.Yaml
