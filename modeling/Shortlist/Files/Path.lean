import Shortlist.Text.Utf8

/-!
# Paths

A path is a list of names.  Slashes that are repeated or at the end do not count, and neither do
names that are a single point.  Two leading slashes are kept apart from one.

The names in a directory are bytes.  A surrogate from U+DC80 to U+DCFF in the text of a path stands
for a byte that encodes no character; other surrogates stand for nothing.
-/

namespace Shortlist

/-- A path; `root` is what a path that does not start from the current directory starts with. -/
structure Path where
  root : String
  names : List String
deriving DecidableEq

namespace Path

/-- The slashes with which a path begins: none, one, or exactly two. -/
def rootOf (cs : List Char) : String :=
  match (cs.takeWhile (· = '/')).length with
  | 0 => ""
  | 2 => "//"
  | _ => "/"

/-- The path of a text. -/
def ofText (s : String) : Path :=
  let names := (s.toList.splitOn '/').map String.ofList
  ⟨rootOf s.toList, names.filter fun n => n ≠ "" ∧ n ≠ "."⟩

/-- The byte that a surrogate stands for. -/
def rawByte? (p : CodePoint) : Option UInt8 :=
  if 0xDC80 ≤ p.value && p.value ≤ 0xDCFF then some (UInt8.ofNat (p.value - 0xDC00)) else none

/-- The bytes that a code point stands for. -/
def pointBytes (p : CodePoint) : Text.Bytes :=
  match p.char? with
  | some c => String.utf8EncodeChar c
  | none => (rawByte? p).toList

/-- The first run of surrogates of which one stands for no byte, from that one on. -/
def unnameable? (t : Text) : Option Text.Unencodable :=
  let isNameable (p : CodePoint) : Bool := !p.isSurrogate || (rawByte? p).isSome
  match t.points.dropWhile isNameable with
  | [] => none
  | p :: rest =>
    some ⟨p, (t.points.takeWhile isNameable).length,
      1 + (rest.takeWhile (·.isSurrogate)).length⟩

/-- The path of a text that may hold surrogates.  Bytes that encode nothing are held as replacement
characters. -/
def ofPoints (t : Text) : Except Text.Unencodable Path :=
  match unnameable? t with
  | some fault => .error fault
  | none =>
    let decoded := Text.decodeUtf8 (t.points.flatMap pointBytes)
    .ok <| ofText <|
      if decoded.fault.isNone then String.ofList decoded.chars else t.replacingSurrogates

/-- The text of a path. -/
def toText (p : Path) : String :=
  let text := p.root ++ "/".intercalate p.names
  if text = "" then "." else text

/-- Whether a name of a path holds a null character. -/
def hasNullCharacter (p : Path) : Bool := p.names.any fun name => name.toList.any (· = '\x00')

/-- The last name of a path. -/
def lastName (p : Path) : String := p.names.getLastD ""

/-- The path of a name in the directory that a path leads to. -/
def child (p : Path) (name : String) : Path := { p with names := p.names ++ [name] }

/-- The directory that holds what a path leads to. -/
def parent (p : Path) : Path := { p with names := p.names.dropLast }

end Path

end Shortlist
