import Shortlist.Value.Dump

/-!
# Writing JSON

Three documents hold JSON, and a `Style` says how each is set out: record lines are compact, audit
lines have a space after every comma and colon, and the output file is indented.  In all of
them only the quote, the backslash and control characters are escaped, so a surrogate stands for
itself and the document may have no bytes.

A value that JSON cannot hold is refused before anything is written: see `writable`.
-/

namespace Shortlist.Json

/-- How a document is set out. -/
structure Style where
  layout : Layout
  afterComma : List CodePoint
  afterColon : List CodePoint
  indent : Option Nat

namespace Style

/-- Record lines are compact. -/
def record : Style := ⟨.record, [], [], none⟩

/-- Audit and log lines have a space after every comma and colon. -/
def line : Style := ⟨.report, [.ofChar ' '], [.ofChar ' '], none⟩

/-- The output file gives each item a line of its own, indented by two spaces a level. -/
def page : Style := ⟨.report, [], [.ofChar ' '], some 2⟩

/-- The line break before an item of the given level. -/
def lineBreak (style : Style) (level : Nat) : List CodePoint :=
  match style.indent with
  | none => []
  | some n => .ofChar '\n' :: List.replicate (n * level) (.ofChar ' ')

end Style

/-- What stands between two items of the given level. -/
def separator (style : Style) (level : Nat) : List CodePoint :=
  .ofChar ',' :: style.afterComma ++ style.lineBreak level

/-- Items between the brackets of the given level. -/
def enclose (style : Style) (level : Nat) (opening closing : Char) (items : List CodePoint) :
    List CodePoint :=
  .ofChar opening :: style.lineBreak (level + 1) ++ items ++ style.lineBreak level
    ++ [.ofChar closing]

/-- The code points of a word. -/
def word (s : String) : List CodePoint := (Text.ofString s).points

/-- The text of a code point inside a string. -/
def escapePoint (p : CodePoint) : List CodePoint :=
  if p = '"' then word "\\\""
  else if p = '\\' then word "\\\\"
  else if p = '\n' then word "\\n"
  else if p = '\r' then word "\\r"
  else if p = '\t' then word "\\t"
  else if p = '\x08' then word "\\b"
  else if p = '\x0c' then word "\\f"
  else if p.value < 0x20 then word "\\u" ++ (Text.hexDigits 4 p.value).map .ofChar
  else [p]

/-- A string with its quotes. -/
def writeString (t : Text) : List CodePoint :=
  .ofChar '"' :: t.points.flatMap escapePoint ++ [.ofChar '"']

/-- A code point with nothing but ASCII: others are written by their UTF-16 units. -/
def asciiPoint (p : CodePoint) : List Char :=
  let n := p.value
  let unit (n : Nat) : List Char := '\\' :: 'u' :: Text.hexDigits 4 n
  if n < 0x7F then [Char.ofNat n]
  else if n < 0x10000 then unit n
  else unit (0xD800 + (n - 0x10000) / 0x400) ++ unit (0xDC00 + (n - 0x10000) % 0x400)

/-- A JSON text with nothing but ASCII; other code points stand only in strings. -/
def asciiOnly (ps : List CodePoint) : List Char := ps.flatMap asciiPoint

/-- The text of a double; the numbers that are not finite are words. -/
def writeDouble (layout : Layout) : Double → List Char
  | .finite x => layout.write x
  | .infinite negative => if negative then "-Infinity".toList else "Infinity".toList
  | .nan => "NaN".toList

/-- The name under which an object holds a key. -/
def keyName : Key → Text
  | .name t => t
  | .null => "null"
  | .bool b => if b then "true" else "false"
  | .int n => .ofChars (intChars n)
  | .float x => .ofChars (writeDouble .report x)
  | .bytes content => .ofString (Text.quotedBytes content)
  | .date d => .ofChars d.write
  | .timestamp t => .ofChars (t.write 'T')

mutual

/-- The text of a value at the given level of nesting. -/
def write (style : Style) (level : Nat) : Value → List CodePoint
  | .null => word "null"
  | .bool b => word (if b then "true" else "false")
  | .int n => (intChars n).map .ofChar
  | .float x => (writeDouble style.layout x).map .ofChar
  | .text t => writeString t
  | .bytes content => writeString (.ofString (Text.quotedBytes content))
  | .date d => writeString (.ofChars d.write)
  | .timestamp t => writeString (.ofChars (t.write 'T'))
  | .pair first second =>
    enclose style level '[' ']'
      (write style (level + 1) first ++ separator style (level + 1)
        ++ write style (level + 1) second)
  | .set members => writeString (.ofChars ((Value.spellSet members).toOption.getD []))
  | .loop .. => word "null"
  | .list items =>
    if items.isEmpty then word "[]"
    else enclose style level '[' ']' (writeItems style (level + 1) items)
  | .mapping entries =>
    if entries.isEmpty then word "\x7b\x7d"
    else enclose style level '\x7b' '\x7d' (writeMembers style (level + 1) entries)

/-- The items of a list, separated. -/
def writeItems (style : Style) (level : Nat) : List Value → List CodePoint
  | [] => []
  | v :: rest =>
    write style level v ++
      if rest.isEmpty then [] else separator style level ++ writeItems style level rest

/-- The members of an object, separated. -/
def writeMembers (style : Style) (level : Nat) : List (Key × Value) → List CodePoint
  | [] => []
  | (k, v) :: rest =>
    writeString (keyName k) ++ .ofChar ':' :: style.afterColon ++ write style level v ++
      if rest.isEmpty then [] else separator style level ++ writeMembers style level rest

end

/-- Why a value cannot be written. -/
inductive Unwritable where
  | integerTooLong
  | circular
  | value (kind : String)
  | key (kind : String)
deriving DecidableEq

/-- The message about a value that cannot be written. -/
def Unwritable.message : Unwritable → String
  | .integerTooLong => IntegerTooLong.mk.message
  | .circular => "Circular reference detected"
  | .value kind => "Object of type " ++ kind ++ " is not JSON serializable"
  | .key kind => "keys must be str, int, float, bool or None, not " ++ kind

/-- Refuses a key that is a date or bytes, or an integer that is too long. -/
def writableKey : Key → Except Unwritable Unit
  | .int n => if digitCount n.natAbs > integerDigitLimit then .error .integerTooLong else .ok ()
  | .bytes _ => .error (.key "bytes")
  | .date _ => .error (.key "date")
  | .timestamp _ => .error (.key "datetime")
  | .name _ | .null | .bool _ | .float _ => .ok ()

mutual

/-- Refuses what JSON cannot hold, and integers that are too long; of several, the first one is
reported. -/
def writable : Value → Except Unwritable Unit
  | .int n => if digitCount n.natAbs > integerDigitLimit then .error .integerTooLong else .ok ()
  | .bytes _ => .error (.value "bytes")
  | .date _ => .error (.value "date")
  | .timestamp _ => .error (.value "datetime")
  | .set _ => .error (.value "set")
  | .loop .. => .error .circular
  | .list items => writableItems items
  | .pair first second => do
    writable first
    writable second
  | .mapping entries => writableMembers entries
  | .null | .bool _ | .float _ | .text _ => .ok ()

/-- Checks the items of a list. -/
def writableItems : List Value → Except Unwritable Unit
  | [] => .ok ()
  | v :: rest => do
    writable v
    writableItems rest

/-- Checks the members of an object. -/
def writableMembers : List (Key × Value) → Except Unwritable Unit
  | [] => .ok ()
  | (k, v) :: rest => do
    writableKey k
    writable v
    writableMembers rest

end

/-- The text of a document that holds a value. -/
def document (style : Style) (v : Value) : Except Unwritable Text := do
  writable v
  return ⟨write style 0 v⟩

end Shortlist.Json
