import Shortlist.Text.Lines
import Shortlist.Yaml.Fault

/-!
# YAML files

A file is handed over in portions of characters, the first one twice as large as the others, and
every portion is checked before anything in it is read.  A fault in a portion is met when the
portion is asked for, so a text that is wrong in front of it has its own fault.  A `Source` says
where the fault is met.
-/

namespace Shortlist.Yaml

/-- Why a YAML file cannot be read. -/
inductive FileFault where
  | undecodable (fault : Text.Utf8Fault)
  | text (fault : Fault)
deriving DecidableEq

/-- What can be read of a file, and the fault that is met after it. -/
structure Source where
  chars : List Char
  fault : Option FileFault

namespace Source

/-- The number of characters of a portion. -/
def portionSize : Nat := 4096

/-- The number of characters in front of the portion that holds a character of the given index. -/
def portionStart (index : Nat) : Nat :=
  let start := index / portionSize * portionSize
  if start < 2 * portionSize then 0 else start

/-- Whether a text may hold a character. -/
def isAllowed (c : Char) : Bool :=
  let n := c.toNat
  c = '\t' || c = '\n' || (0x20 ≤ n && n ≤ 0x7E) || n = 0x85 || (0xA0 ≤ n && n ≤ 0xFFFD)
    || 0x10000 ≤ n

/-- The source that ends with a fault in front of the portion of the given index. -/
def cutAt (index : Nat) (cs : List Char) (fault : FileFault) : Source :=
  ⟨cs.take (portionStart index), some fault⟩

/-- The source of characters that are followed by a fault, if there is one, which is met with the
first portion that they do not fill. -/
def ofChars (cs : List Char) (fault : Option FileFault) : Source :=
  let source := match fault with
    | none => ⟨cs, none⟩
    | some f => cutAt cs.length cs f
  let allowed := source.chars.takeWhile isAllowed
  if allowed.length < source.chars.length then cutAt allowed.length cs (.text .character)
  else source

/-- The source of the bytes of a file. -/
def ofBytes (bytes : Text.Bytes) : Source :=
  let reading := Text.readStepwise bytes
  ofChars reading.chars (reading.fault.map .undecodable)

end Source

end Shortlist.Yaml
