import Shortlist.Web.Host

/-!
# Web addresses

Evidence is submitted as web addresses.  An address is accepted when its scheme is `http` or `https`
and it names a host; it is then kept exactly as it was written.  Accepting is lenient in the
ways of the web: control characters and spaces at the ends do not count, tabs and line breaks
do not count anywhere, a backslash serves as a slash, and there may be any number of slashes
in front of the host, or none.
-/

namespace Shortlist.Web

/-- The greatest number of bytes of an address. -/
def addressLimit : Nat := 2083

/-- The characters of an address that count. -/
def significant (cs : List Char) : List Char :=
  let isEdge := fun (c : Char) => c.toNat ≤ 0x20
  let trimmed := ((cs.dropWhile isEdge).reverse.dropWhile isEdge).reverse
  trimmed.filter fun c => !(c = '\t' || c = '\n' || c = '\r')

/-- What follows the scheme, if it is `http` or `https`. -/
def afterScheme? (cs : List Char) : Option (List Char) :=
  match cs.dropWhile (· ≠ ':') with
  | [] => none
  | _ :: rest =>
    let scheme := (cs.takeWhile (· ≠ ':')).map Char.toLower
    if scheme = "http".toList ∨ scheme = "https".toList then some rest else none

/-- Whether a character ends the part of an address that names the host. -/
def endsAuthority (c : Char) : Bool := c = '/' || c = '\\' || c = '?' || c = '#'

/-- What follows the last `@`, or the whole text. -/
def afterUser (cs : List Char) : List Char := (cs.reverse.takeWhile (· ≠ '@')).reverse

/-- The host and what follows it; a colon inside brackets belongs to the host. -/
def splitHost (bracketed : Bool) : List Char → List Char × List Char
  | [] => ([], [])
  | c :: rest =>
    if c = ':' && !bracketed then ([], c :: rest)
    else
      let bracketed := if c = '[' then true else if c = ']' then false else bracketed
      let (host, after) := splitHost bracketed rest
      (c :: host, after)

/-- Whether a text is empty or a colon with a port number, which may be missing. -/
def isPort (cs : List Char) : Bool :=
  match cs with
  | [] => true
  | ':' :: digits =>
    digits.all (fun c => '0' ≤ c && c ≤ '9') && (numeral? 10 digits).any (· ≤ 65535)
  | _ => false

/-- Whether a text is a web address. -/
def isAddress (s : String) : Bool :=
  s.utf8ByteSize ≤ addressLimit &&
    match afterScheme? (significant s.toList) with
    | none => false
    | some rest =>
      let authority := (rest.dropWhile fun c => c = '/' || c = '\\').takeWhile (!endsAuthority ·)
      let (host, port) := splitHost false (afterUser authority)
      isHost host && isPort port

end Shortlist.Web

namespace Shortlist

/-- A web address, as it was written. -/
structure WebAddress where
  text : String
  text_isAddress : Web.isAddress text = true
deriving DecidableEq

end Shortlist
