import Shortlist.Text.Utf8
import Shortlist.Web.Label

/-!
# Hosts of web addresses

The host of an address is an IPv6 address in brackets or a name.  The escapes of a name are decoded
and the name is folded.  A folded name must hold something, none of the ASCII characters that
would end it, and only labels that are allowed; these may have any length, may be empty, and may
hold underscores.  A name whose last label is a number must be an IPv4 address.
-/

namespace Shortlist.Web

/-! ## IPv4 addresses -/

/-- The number that digits say in a base up to 16; no digits say zero. -/
def numeral? (base : Nat) (cs : List Char) : Option Nat :=
  cs.foldl (fun acc c => do
    let n ← acc
    let d ← hexValue? c
    if d < base then some (n * base + d) else none) (some 0)

/-- A part of an IPv4 address: `0x` marks base 16 and a leading zero base 8. -/
def ipv4Part? (cs : List Char) : Option Nat :=
  match cs with
  | [] => none
  | '0' :: 'x' :: rest => numeral? 16 rest
  | '0' :: 'X' :: rest => numeral? 16 rest
  | '0' :: c :: rest => numeral? 8 (c :: rest)
  | cs => numeral? 10 cs

/-- The parts of a name between points, without an empty one at the end. -/
def trimmedParts (cs : List Char) : List (List Char) :=
  let parts := cs.splitOn '.'
  if parts.length > 1 && parts.getLast? = some [] then parts.dropLast else parts

/-- Whether the last label of a name is a number. -/
def endsInNumber (cs : List Char) : Bool :=
  match (trimmedParts cs).getLast? with
  | none => false
  | some last =>
    (!last.isEmpty && last.all fun c => '0' ≤ c && c ≤ '9') || (ipv4Part? last).isSome

/-- Whether a name is an IPv4 address: at most four numbers, of which the last fills the bytes that
the others leave. -/
def isIpv4 (cs : List Char) : Bool :=
  let parts := trimmedParts cs
  match parts.mapM ipv4Part? with
  | none => false
  | some numbers =>
    numbers.length ≤ 4 && numbers.dropLast.all (· ≤ 255)
      && numbers.getLastD 0 < 256 ^ (5 - numbers.length)

/-! ## IPv6 addresses -/

/-- Whether a text is a group of an IPv6 address. -/
def isIpv6Group (cs : List Char) : Bool :=
  1 ≤ cs.length && cs.length ≤ 4 && cs.all fun c => (hexValue? c).isSome

/-- Whether a text is an IPv4 address inside an IPv6 address: four decimal numbers without leading
zeros. -/
def isDottedQuad (cs : List Char) : Bool :=
  let parts := cs.splitOn '.'
  parts.length = 4 && parts.all fun p =>
    !p.isEmpty && p.all (fun c => '0' ≤ c && c ≤ '9') && (p.length = 1 || p.head? ≠ some '0')
      && (numeral? 10 p).any (· ≤ 255)

/-- The number of groups that a side of an IPv6 address holds, if it is well formed.  A dotted quad
counts for two groups and may only come last. -/
def groupCount? (quadAllowed : Bool) (cs : List Char) : Option Nat :=
  if cs.isEmpty then some 0
  else
    let parts := cs.splitOn ':'
    let quad := quadAllowed && isDottedQuad (parts.getLastD [])
    let groups := if quad then parts.dropLast else parts
    if groups.all isIpv6Group then some (groups.length + if quad then 2 else 0) else none

/-- The two sides of the first `::` of a text, if there is one. -/
def splitAtGap? : List Char → Option (List Char × List Char)
  | [] => none
  | ':' :: ':' :: rest => some ([], rest)
  | c :: rest => (splitAtGap? rest).map fun (l, r) => (c :: l, r)

/-- Whether a text is an IPv6 address: eight groups, or fewer with one gap. -/
def isIpv6 (cs : List Char) : Bool :=
  match splitAtGap? cs with
  | none => groupCount? true cs = some 8
  | some (left, right) =>
    match groupCount? false left, groupCount? true right with
    | some l, some r => l + r ≤ 7
    | _, _ => false

/-! ## Names -/

/-- Whether a folded name may hold a character; of ASCII it may not hold what would end it. -/
def isNameChar (c : Char) : Bool :=
  0x80 ≤ c.toNat || (0x20 < c.toNat && c.toNat ≠ 0x7F && !"#/:<>?@[\\]^|%".toList.contains c)

/-- The bytes of a name whose escapes are decoded. -/
def unescape : List Char → Text.Bytes
  | [] => []
  | '%' :: a :: b :: rest =>
    match hexValue? a, hexValue? b with
    | some high, some low => UInt8.ofNat (high * 16 + low) :: unescape rest
    | _, _ => Text.encodeUtf8 ['%'] ++ unescape (a :: b :: rest)
  | c :: rest => Text.encodeUtf8 [c] ++ unescape rest

/-- The folded form of a name as it is written, if all of its characters may stand there. -/
def readName? (cs : List Char) : Option (List Char) := do
  let text := Text.decodeUtf8 (unescape cs)
  if text.fault.isSome then none
  let name ← foldName? text.chars
  if name.isEmpty || !name.all isNameChar then none
  return name

/-- Whether a text is a host. -/
def isHost (cs : List Char) : Bool :=
  match cs with
  | '[' :: rest => rest.getLast? = some ']' && isIpv6 rest.dropLast
  | _ =>
    match readName? cs with
    | none => false
    | some name => (Label.ofName? name).isSome && (!endsInNumber name || isIpv4 name)

end Shortlist.Web
