import Shortlist.Text.Utf8

/-!
# Bytes written with sixty-four letters

Four letters say three bytes.  The last letters may be two or three, completed to four by equals
signs, and say one byte or two.  Reading is tolerant: characters that are no letters are passed
over, and nothing is read after a completion.  Letters that are left over at the end are refused.
-/

namespace Shortlist.Text.Base64

/-- The six bits that a letter says. -/
def value? (c : Char) : Option Nat :=
  if 'A' ≤ c ∧ c ≤ 'Z' then some (c.toNat - 'A'.toNat)
  else if 'a' ≤ c ∧ c ≤ 'z' then some (c.toNat - 'a'.toNat + 26)
  else if '0' ≤ c ∧ c ≤ '9' then some (c.toNat - '0'.toNat + 52)
  else if c = '+' then some 62
  else if c = '/' then some 63
  else none

/-- The bytes that up to four letters say. -/
def bytesOf : List Nat → Bytes
  | a :: b :: rest =>
    let first := UInt8.ofNat (a * 4 + b / 16)
    match rest with
    | [] => [first]
    | c :: rest =>
      let second := UInt8.ofNat (b % 16 * 16 + c / 4)
      match rest with
      | [] => [first, second]
      | d :: _ => [first, second, UInt8.ofNat (c % 4 * 64 + d)]
  | _ => []

/-- Reads what follows when the bytes `done`, the last one first, and then the letters `group` of an
incomplete group have been read, with `pads` equals signs after the last letter. -/
def readFrom (done : Bytes) (group : List Nat) (pads : Nat) : List Char → Option Bytes
  | [] => if group.isEmpty then some done.reverse else none
  | c :: rest =>
    if c = '=' then
      if group.length < 2 then readFrom done group pads rest
      else if 4 ≤ group.length + pads + 1 then some (done.reverse ++ bytesOf group)
      else readFrom done group (pads + 1) rest
    else
      match value? c with
      | none => readFrom done group pads rest
      | some v =>
        let letters := group ++ [v]
        if letters.length < 4 then readFrom done letters 0 rest
        else readFrom ((bytesOf letters).reverse ++ done) [] 0 rest

/-- The bytes that a text says. -/
def read? (cs : List Char) : Option Bytes := readFrom [] [] 0 cs

example : read? "TWFu".toList = some [0x4D, 0x61, 0x6E] := by decide

example : read? "TQ==".toList = some [0x4D] := by decide

end Shortlist.Text.Base64
