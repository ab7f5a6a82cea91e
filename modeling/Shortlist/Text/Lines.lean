import Shortlist.Text.Blank
import Shortlist.Text.Utf8

/-!
# Lines of a file

A line ends in a line feed, a carriage return, or the two together; the end of the file ends a
line that holds at least one character.  `splitLines` gives the lines without their ends and
`unifyNewlines` writes every end as a line feed.

A file that is read line by line is decoded in blocks of `blockSize` bytes, and a fault counts
its position from the first byte of the decoding step that meets it.  The lines that were
complete before that step are still read.  `readLines` states this without blocks as long as
the file is well formed.
-/

namespace Shortlist.Text

/-- Every end of a line written as a line feed. -/
def unifyNewlines : List Char → List Char
  | [] => []
  | '\r' :: '\n' :: rest => '\n' :: unifyNewlines rest
  | '\r' :: rest => '\n' :: unifyNewlines rest
  | c :: rest => c :: unifyNewlines rest

/-- The lines of a text whose ends are line feeds, `line` being the current one in reverse. -/
def splitFeeds (line : List Char) : List Char → List (List Char)
  | [] => if line = [] then [] else [line.reverse]
  | c :: rest =>
    if c = '\n' then line.reverse :: splitFeeds [] rest else splitFeeds (c :: line) rest

/-- The lines of a text, without their ends. -/
def splitLines (cs : List Char) : List (List Char) := splitFeeds [] (unifyNewlines cs)

/-- The number of bytes that a file read by lines decodes at a time. -/
def blockSize : Nat := 8192

/-- The lines read from a file, and the fault that stopped the reading. -/
structure LineReading where
  lines : List (List Char)
  fault : Option Utf8Fault

/-- The offset of the byte that shows a fault, or the size of the file if its end does.  A surrogate
shows itself by its third byte. -/
def shownAt (bytes : Bytes) (f : Utf8Fault) : Nat :=
  match f.flaw with
  | .start => f.offset
  | .truncated => bytes.length
  | .continuation =>
    let isSurrogate := f.length = 1 && f.first = 0xED
      && ((bytes.drop (f.offset + 1)).head?.any isContinuation)
    f.offset + f.length + if isSurrogate then 1 else 0

/-- The first byte of the decoding step that meets a fault: if the end of the file shows the fault,
it is met on its own; any other fault is met in the block of the byte that shows it, together with
the bytes of a character that began in the block before. -/
def stepStart (bytes : Bytes) (starts : List Nat) (f : Utf8Fault) : Nat :=
  let shown := shownAt bytes f
  if bytes.length ≤ shown then f.offset
  else
    let block := shown / blockSize * blockSize
    (starts.filter fun s => s ≤ block).getLastD 0

/-- The offsets at which the characters of a text start, and the offset of its end. -/
def charStarts (offset : Nat) : List Char → List Nat
  | [] => [offset]
  | c :: rest => offset :: charStarts (offset + c.utf8Size) rest

/-- The characters that start before `limit`, with unified line ends.  A carriage return in the last
place may be half of a line end, so it is left out. -/
def charsBefore (limit : Nat) (cs : List Char) : List Char :=
  let visible :=
    ((charStarts 0 cs).zip cs).filterMap fun (s, c) => if s < limit then some c else none
  unifyNewlines (if visible.getLast? = some '\r' then visible.dropLast else visible)

/-- The complete lines among the characters that start before `limit`. -/
def linesBefore (limit : Nat) (cs : List Char) : List (List Char) :=
  splitFeeds [] ((charsBefore limit cs).reverse.dropWhile (· ≠ '\n')).reverse

/-- What is decoded of a file before the step that meets a fault, and the fault. -/
structure StepwiseReading where
  chars : List Char
  fault : Option Utf8Fault

/-- Decodes a file in blocks. -/
def readStepwise (bytes : Bytes) : StepwiseReading :=
  let text := decodeUtf8 bytes
  match text.fault with
  | none => ⟨unifyNewlines text.chars, none⟩
  | some f =>
    let start := stepStart bytes (charStarts 0 text.chars) f
    ⟨charsBefore start text.chars, some { f with offset := f.offset - start }⟩

/-- Reads a file line by line. -/
def readLines (bytes : Bytes) : LineReading :=
  let text := decodeUtf8 bytes
  match text.fault with
  | none => ⟨splitLines text.chars, none⟩
  | some f =>
    let start := stepStart bytes (charStarts 0 text.chars) f
    ⟨linesBefore start text.chars, some { f with offset := f.offset - start }⟩

/-- The lines that hold more than blanks, without the blanks around them and with their numbers;
the first line has the given number. -/
def contentLines (number : Nat) : List (List Char) → List (Nat × List Char)
  | [] => []
  | line :: rest =>
    let content := trim line
    if content = [] then contentLines (number + 1) rest
    else (number, content) :: contentLines (number + 1) rest

/-- Reads a whole file as one text, with unified line ends. -/
def readText (bytes : Bytes) : Except Utf8Fault (List Char) :=
  let text := decodeUtf8 bytes
  match text.fault with
  | none => .ok (unifyNewlines text.chars)
  | some f => .error f

end Shortlist.Text
