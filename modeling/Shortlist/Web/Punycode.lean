/-!
# Punycode

A label of a host name that begins with `xn--` stands for a label in another script.  The text after
the last hyphen is a run of numbers in base 36, each in digits of growing weight; every number
says where to insert the next character and how far its code lies from the one before.  The
rule is that of RFC 3492.
-/

namespace Shortlist.Web.Punycode

/-- The value of a digit in base 36: letters come before numerals. -/
def digit? (c : Char) : Option Nat :=
  if 'a' ≤ c ∧ c ≤ 'z' then some (c.toNat - 'a'.toNat)
  else if 'A' ≤ c ∧ c ≤ 'Z' then some (c.toNat - 'A'.toNat)
  else if '0' ≤ c ∧ c ≤ '9' then some (c.toNat - '0'.toNat + 26)
  else none

/-- The threshold of the digit at place `k` (a multiple of 36) under a bias. -/
def threshold (k bias : Nat) : Nat := min 26 (max 1 (k - bias))

/-- Reads one number: its value, and the characters left. -/
def readNumber (bias : Nat) : Nat → Nat → Nat → List Char → Option (Nat × List Char)
  | _, _, _, [] => none
  | k, weight, acc, c :: rest => do
    let d ← digit? c
    let acc := acc + d * weight
    if acc ≥ 2 ^ 32 then none
    let t := threshold k bias
    let next := weight * (36 - t)
    if d < t then some (acc, rest)
    else if next ≥ 2 ^ 32 then none else readNumber bias (k + 36) next acc rest

/-- Halves a distance until the bias is found. -/
def settle : Nat → Nat → Nat → Nat
  | 0, k, delta => k + 36 * delta / (delta + 38)
  | fuel + 1, k, delta =>
    if delta > 455 then settle fuel (k + 36) (delta / 35) else k + 36 * delta / (delta + 38)

/-- The bias after a number that inserted into a label of `count` characters. -/
def adapt (delta count : Nat) (first : Bool) : Nat :=
  let delta := if first then delta / 700 else delta / 2
  settle 32 0 (delta + delta / count)

/-- Inserts the characters that the numbers say.  Each number takes a character of the text, so the
length of the text is enough fuel. -/
def insertAll : Nat → Bool → Nat → Nat → Nat → List Char → List Char → Option (List Char)
  | _, _, _, _, _, out, [] => some out
  | 0, _, _, _, _, _, _ => none
  | fuel + 1, first, bias, code, index, out, cs => do
    let (delta, rest) ← readNumber bias 36 1 0 cs
    let count := out.length + 1
    let code := code + (index + delta) / count
    let index := (index + delta) % count
    if code ≥ 0x110000 || (0xD800 ≤ code && code ≤ 0xDFFF) then none
    insertAll fuel false (adapt delta count first) code (index + 1)
      (out.take index ++ Char.ofNat code :: out.drop index) rest

/-- The label that a text stands for. -/
def decode? (cs : List Char) : Option (List Char) :=
  let reversed := cs.reverse
  let tail := (reversed.takeWhile (· ≠ '-')).reverse
  let plain := ((reversed.dropWhile (· ≠ '-')).drop 1).reverse
  insertAll (tail.length + 1) true 72 128 0 plain tail

end Shortlist.Web.Punycode
