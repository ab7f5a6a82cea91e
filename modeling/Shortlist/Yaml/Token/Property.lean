import Shortlist.Text.Utf8
import Shortlist.Yaml.Token

/-!
# Directives, anchors and tags

The tokens that say something about what follows them.  A tag may hold bytes written as `%` and two
hexadecimal digits, which have to be UTF-8.
-/

namespace Shortlist.Yaml

open Cursor

/-! ## Tags -/

/-- Whether a character may be part of a tag. -/
def isTagChar (c : Char) : Bool :=
  isNameChar c || ";/?:@&=+$,_.!~*'()[]%".toList.contains c

/-- The value of the hexadecimal digit that is `n` characters ahead. -/
def hexAhead (c : Cursor) (n : Nat) : Except Fault Nat := do
  c.reach (n + 1)
  match (c.ahead? n).bind hexValue? with
  | some value => return value
  | none => noToken

/-- Reads bytes that are written as escapes.  `fuel` bounds their number. -/
def scanEscapedBytes : Nat → Cursor → Except Fault (Text.Bytes × Cursor)
  | 0, c => .ok ([], c)
  | fuel + 1, c => do
    c.reach 1
    if c.isAt '%' then
      let digits := c.step
      digits.reach 1
      let high ← hexAhead digits 0
      let low ← hexAhead digits 1
      let (others, after) ← scanEscapedBytes fuel (digits.advance 2)
      return (UInt8.ofNat (high * 16 + low) :: others, after)
    else return ([], c)

/-- Reads the characters of a tag, in which escapes may stand, after those of `before` in reverse.
`fuel` bounds their number. -/
def scanTagChars : Nat → List Char → Cursor → Except Fault (List Char × Cursor)
  | 0, before, c => .ok (before.reverse, c)
  | fuel + 1, before, c => do
    c.reach 1
    match c.next? with
    | none => return (before.reverse, c)
    | some x =>
      if x = '%' then
        let (bytes, after) ← scanEscapedBytes fuel c
        let text := Text.decodeUtf8 bytes
        if text.fault.isSome then noToken
        scanTagChars fuel (text.chars.reverse ++ before) after
      else if isTagChar x then scanTagChars fuel (x :: before) c.step
      else return (before.reverse, c)

/-- Reads the part of a tag that may hold escapes; it is not empty. -/
def scanTagUri (c : Cursor) : Except Fault (String × Cursor) := do
  let (text, after) ← scanTagChars (c.size + 1) [] c
  if after.index = c.index then noToken
  return (String.ofList text, after)

/-- Reads the handle of a tag: an exclamation mark, alone or around a name. -/
def scanTagHandle (c : Cursor) : Except Fault (String × Cursor) := do
  c.reach 1
  if !c.isAt '!' then noToken
  c.reach 2
  if c.ahead? 1 = some ' ' then return ("!", c.step)
  let (name, after) := c.step.span isNameChar
  after.reach 1
  if after.isAt '!' then return (String.ofList ('!' :: name ++ ['!']), after.step) else noToken

/-- Reads a tag that is no complete one in angle brackets and has more than its mark. -/
def scanShortTag (c : Cursor) : Except Fault (TagText × Cursor) := do
  let word := (c.rest.drop 1).takeWhile fun x => !(x = ' ' || isBreak x)
  let (handle, after) ←
    if word.contains '!' then scanTagHandle c
    else do
      c.reach (word.length + 2)
      pure ("!", c.step)
  let (suffix, after) ← scanTagUri after
  return (⟨some handle, suffix⟩, after)

/-- Reads a tag. -/
def scanTag (c : Cursor) : Except Fault (Token × Cursor) := do
  c.reach 2
  let (tag, after) ←
    if c.ahead? 1 = some '<' then do
      let (suffix, after) ← scanTagUri (c.advance 2)
      after.reach 1
      if !after.isAt '>' then noToken
      pure (TagText.mk none suffix, after.step)
    else if c.isBlankAhead 1 then pure (TagText.mk none "!", c.step)
    else scanShortTag c
  after.reach 1
  if !after.atSpace then noToken
  return (.tag tag, after)

/-! ## Anchors -/

/-- Whether a character may follow the name of an anchor. -/
def endsAnchor (c : Char) : Bool :=
  isGap c || isBreak c || "?:,]\x7d%@\x60".toList.contains c

/-- Reads the name of an anchor or of an alias after its mark. -/
def scanAnchorName (c : Cursor) : Except Fault (String × Cursor) := do
  let (name, after) := c.step.span isNameChar
  after.reach 1
  if name = [] || !after.next?.all endsAnchor then noToken
  return (String.ofList name, after)

/-! ## Directives -/

/-- Reads a number. -/
def scanNumber (c : Cursor) : Except Fault (Nat × Cursor) := do
  let (digits, after) := c.span isDigit
  after.reach 1
  if digits = [] then noToken
  if integerDigitLimit < digits.length then throw (.integerTooLong ⟨digits.length⟩)
  return (natOfDigits digits, after)

/-- Refuses a place at which neither a space nor a line end stands. -/
def expectSpace (c : Cursor) : Except Fault Unit := do
  c.reach 1
  if !c.atSpace then noToken

/-- Reads the version in a directive. -/
def scanVersion (c : Cursor) : Except Fault (Directive × Cursor) := do
  let (major, c) ← scanNumber c.skipSpaces
  if !c.isAt '.' then noToken
  let (_, c) ← scanNumber c.step
  expectSpace c
  return (.version major, c)

/-- Reads a handle and what it stands for in a directive. -/
def scanTagDirective (c : Cursor) : Except Fault (Directive × Cursor) := do
  let (handle, c) ← scanTagHandle c.skipSpaces
  c.reach 1
  if !c.isAt ' ' then noToken
  let (extent, c) ← scanTagUri c.skipSpaces
  expectSpace c
  return (.tag handle extent, c)

/-- Reads what may follow a directive or the head of a block scalar on its line. -/
def scanRestOfLine (c : Cursor) : Except Fault Cursor := do
  let c := c.skipComment
  c.reach 1
  if c.atLineEnd then return c.lineEnd.2 else noToken

/-- Reads a directive. -/
def scanDirective (c : Cursor) : Except Fault (Token × Cursor) := do
  let (name, c) := c.step.span isNameChar
  c.reach 1
  if name = [] || !c.atSpace then noToken
  let (directive, c) ←
    if name = "YAML".toList then scanVersion c
    else if name = "TAG".toList then scanTagDirective c
    else pure (.other, c.skipLine)
  let c ← scanRestOfLine c
  return (.directive directive, c)

end Shortlist.Yaml
