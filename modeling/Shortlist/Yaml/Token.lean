import Shortlist.Yaml.Cursor

/-!
# YAML tokens

A YAML text is first cut into tokens.  Tokens also mark the beginning and end of blocks, which the
indentation shows, and the keys of mappings, which show only when a colon follows.
-/

namespace Shortlist.Yaml

/-- A tag as it is written: a handle, if it has one, and what follows. -/
structure TagText where
  handle : Option String
  suffix : String
deriving DecidableEq

/-- What a directive says. -/
inductive Directive where
  | version (major : Nat)
  | tag (handle extent : String)
  | other
deriving DecidableEq

/-- A token. -/
inductive Token where
  | directive (directive : Directive)
  | documentStart
  | documentEnd
  | streamEnd
  | blockSequenceStart
  | blockMappingStart
  | blockEnd
  | flowSequenceStart
  | flowSequenceEnd
  | flowMappingStart
  | flowMappingEnd
  | flowEntry
  | blockEntry
  | key
  | value
  | alias (name : String)
  | anchor (name : String)
  | tag (tag : TagText)
  | scalar (text : Text) (plain : Bool)
deriving DecidableEq

/-- The fault of a text that holds no token. -/
def noToken {α : Type} : Except Fault α := .error .token

/-- Whether a character may be part of a name. -/
def isNameChar (c : Char) : Bool :=
  isDigit c || ('A' ≤ c && c ≤ 'Z') || ('a' ≤ c && c ≤ 'z') || c = '-' || c = '_'

end Shortlist.Yaml
