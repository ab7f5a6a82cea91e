import Shortlist.Text.Basic

/-!
# Text as bytes

Files hold UTF-8.  Writing characters never fails, but a text that holds surrogates has no bytes:
`encode` says where the first run of them is.  Reading stops at the first byte sequence that
encodes no character, and says where it starts, how long it is and what is wrong with it: a byte
that starts no character, a continuation byte that is missing or out of range, or an end of the
file within a character.  The ranges are those of the Unicode standard, which exclude overlong
forms, surrogates and codes beyond `0x10FFFF`.
-/

namespace Shortlist.Text

/-- The contents of a file. -/
abbrev Bytes := List UInt8

/-- The bytes of characters. -/
def encodeUtf8 (cs : List Char) : Bytes := cs.flatMap String.utf8EncodeChar

/-- A run of surrogates that no bytes encode: its first code point, the position of that one in its
text, and the length of the run. -/
structure Unencodable where
  first : CodePoint
  position : Nat
  length : Nat
deriving DecidableEq

/-- The first run of surrogates in a text. -/
def unencodable? (t : Text) : Option Unencodable :=
  match t.points.dropWhile (!·.isSurrogate) with
  | [] => none
  | p :: rest =>
    some ⟨p, (t.points.takeWhile (!·.isSurrogate)).length,
      1 + (rest.takeWhile (·.isSurrogate)).length⟩

/-- The bytes of a text that holds no surrogate. -/
def encode (t : Text) : Except Unencodable Bytes :=
  match t.unencodable? with
  | some fault => .error fault
  | none => .ok (t.points.flatMap fun p => (p.char?.map String.utf8EncodeChar).getD [])

/-- What is wrong with a byte sequence. -/
inductive Utf8Flaw where
  | start
  | continuation
  | truncated
deriving DecidableEq

/-- A sequence of `length` bytes at `offset` that encodes no character, with its first byte. -/
structure Utf8Fault where
  offset : Nat
  length : Nat
  first : UInt8
  flaw : Utf8Flaw
deriving DecidableEq

/-- The characters of a file up to its first fault. -/
structure Utf8Text where
  chars : List Char
  fault : Option Utf8Fault

namespace Utf8Text

/-- The text with a character of `width` bytes in front. -/
def push (c : Char) (width : Nat) (t : Utf8Text) : Utf8Text :=
  ⟨c :: t.chars, t.fault.map fun f => { f with offset := f.offset + width }⟩

/-- An empty text that ends in a fault. -/
def failed (first : UInt8) (length : Nat) (flaw : Utf8Flaw) : Utf8Text :=
  ⟨[], some ⟨0, length, first, flaw⟩⟩

end Utf8Text

/-- Whether a byte continues a character. -/
def isContinuation (b : UInt8) : Bool := 0x80 ≤ b && b < 0xC0

/-- Whether a second byte may follow the first byte of a character of three or four bytes. -/
def mayFollow (first second : UInt8) : Bool :=
  isContinuation second &&
    (if first = 0xE0 then 0xA0 ≤ second
     else if first = 0xED then second < 0xA0
     else if first = 0xF0 then 0x90 ≤ second
     else if first = 0xF4 then second < 0x90
     else true)

/-- The character with the payload bits of a first byte and of its continuation bytes. -/
def charOfBits (lead : Nat) (rest : List UInt8) : Char :=
  Char.ofNat (rest.foldl (fun n b => n * 64 + (b.toNat - 0x80)) lead)

/-- The characters of a file up to its first fault. -/
def decodeUtf8 : Bytes → Utf8Text
  | [] => ⟨[], none⟩
  | a :: r =>
    if a < 0x80 then (decodeUtf8 r).push (Char.ofNat a.toNat) 1
    else if a < 0xC2 then .failed a 1 .start
    else if a < 0xE0 then
      match r with
      | [] => .failed a 1 .truncated
      | b :: r =>
        if isContinuation b then (decodeUtf8 r).push (charOfBits (a.toNat - 0xC0) [b]) 2
        else .failed a 1 .continuation
    else if a < 0xF0 then
      match r with
      | [] => .failed a 1 .truncated
      | b :: r =>
        if mayFollow a b then
          match r with
          | [] => .failed a 2 .truncated
          | c :: r =>
            if isContinuation c then (decodeUtf8 r).push (charOfBits (a.toNat - 0xE0) [b, c]) 3
            else .failed a 2 .continuation
        else .failed a 1 .continuation
    else if a < 0xF5 then
      match r with
      | [] => .failed a 1 .truncated
      | b :: r =>
        if mayFollow a b then
          match r with
          | [] => .failed a 2 .truncated
          | c :: r =>
            if isContinuation c then
              match r with
              | [] => .failed a 3 .truncated
              | d :: r =>
                if isContinuation d then
                  (decodeUtf8 r).push (charOfBits (a.toNat - 0xF0) [b, c, d]) 4
                else .failed a 3 .continuation
            else .failed a 2 .continuation
        else .failed a 1 .continuation
    else .failed a 1 .start

/-- The message about surrogates that cannot be written. -/
def Unencodable.message (f : Unencodable) : String :=
  if f.length = 1 then
    "'utf-8' codec can't encode character '\\u" ++ String.ofList (Nat.toDigits 16 f.first.value)
      ++ "' in position " ++ toString f.position ++ ": surrogates not allowed"
  else
    "'utf-8' codec can't encode characters in position " ++ toString f.position ++ "-"
      ++ toString (f.position + f.length - 1) ++ ": surrogates not allowed"

/-- The first byte of a fault and its position, in a message. -/
def Utf8Fault.firstByte (f : Utf8Fault) : String :=
  let digits := [Nat.digitChar (f.first.toNat / 16), Nat.digitChar (f.first.toNat % 16)]
  "'utf-8' codec can't decode byte 0x" ++ String.ofList digits ++ " in position "
    ++ toString f.offset ++ ": "

/-- The message about bytes in the middle of a document that encode no text. -/
def Utf8Fault.briefMessage (f : Utf8Fault) : String := f.firstByte ++ "invalid utf-8"

/-- The words about bytes that encode no text where a record line should hold them. -/
def Utf8Fault.lineMessage (f : Utf8Fault) : String :=
  match f.flaw with
  | .truncated => "incomplete utf-8 byte sequence from index " ++ toString f.offset
  | .start | .continuation =>
    "invalid utf-8 sequence of " ++ toString f.length ++ " bytes from index " ++ toString f.offset

/-- The message about a fault, which counts from the given position. -/
def Utf8Fault.message (f : Utf8Fault) : String :=
  let flaw := match f.flaw with
    | .start => "invalid start byte"
    | .continuation => "invalid continuation byte"
    | .truncated => "unexpected end of data"
  if f.length = 1 then f.firstByte ++ flaw
  else
    "'utf-8' codec can't decode bytes in position " ++ toString f.offset ++ "-"
      ++ toString (f.offset + f.length - 1) ++ ": " ++ flaw

end Shortlist.Text
