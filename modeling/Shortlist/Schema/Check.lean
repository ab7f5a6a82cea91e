import Shortlist.Calendar.Reading
import Shortlist.Schema.Issue

/-!
# Checking documents

A `Check` is the outcome of reading a value as something it should be.  Reading a record goes
through all of its fields, so the issues of all of them come together, in the order of the fields;
this is what the `Applicative` instance does.  The text of a date that is an interval without ends
breaks the reading off, whatever else is wrong.

`required` and `optional` read the members of a mapping, `closed` refuses other members, and `items`
reads the items of a list.
-/

namespace Shortlist

/-- The outcome of reading a value. -/
inductive Check (α : Type) where
  | accepted (value : α)
  | refused (issues : List Issue)
  | broken (fault : DurationPair)

namespace Check

variable {α β : Type}

/-- The outcome with another result. -/
def map (f : α → β) : Check α → Check β
  | .accepted a => .accepted (f a)
  | .refused issues => .refused issues
  | .broken fault => .broken fault

/-- Both outcomes together: issues come together, and a broken reading prevails. -/
def both (f : Check (α → β)) (x : Check α) : Check β :=
  match f, x with
  | .broken fault, _ => .broken fault
  | _, .broken fault => .broken fault
  | .refused first, .refused second => .refused (first ++ second)
  | .refused issues, .accepted _ => .refused issues
  | .accepted _, .refused issues => .refused issues
  | .accepted f, .accepted a => .accepted (f a)

instance : Applicative Check where
  pure := .accepted
  map := map
  seq f x := both f (x ())

/-- Reads on from a result. -/
def andThen (x : Check α) (f : α → Check β) : Check β :=
  match x with
  | .accepted a => f a
  | .refused issues => .refused issues
  | .broken fault => .broken fault

/-- A single issue at the value itself. -/
def issue (kind : IssueKind) : Check α := .refused [⟨[], kind⟩]

/-- The outcome seen from one step further out. -/
def under (step : Step) : Check α → Check α
  | .accepted a => .accepted a
  | .refused issues => .refused (issues.map (·.under step))
  | .broken fault => .broken fault

/-! ## Members of a mapping -/

/-- The entries of a mapping, or the given issue. -/
def entries (kind : IssueKind) : Value → Check Entries
  | .mapping es => .accepted es
  | _ => issue kind

/-- Reads the member of a name, which must be there. -/
def required (es : Entries) (name : String) (read : Value → Check α) : Check α :=
  match es.get? name with
  | some v => (read v).under (.name name)
  | none => .refused [⟨[.name name], .missing⟩]

/-- Reads the member of a name, if it is there. -/
def optional (es : Entries) (name : String) (default : α) (read : Value → Check α) : Check α :=
  match es.get? name with
  | some v => (read v).under (.name name)
  | none => .accepted default

/-- The issue with a key, if it is none of the names. -/
def keyIssue? (names : List String) (key : Key) : Option Issue :=
  match key with
  | .name t =>
    if names.any fun name => t = name then none else some ⟨[.ofKey (.name t)], .extra⟩
  | key => some ⟨[.ofKey key], .keyNotText⟩

/-- Refuses keys that are none of the names. -/
def onlyNames (es : Entries) (names : List String) : Check Unit :=
  match es.filterMap fun e => keyIssue? names e.1 with
  | [] => .accepted ()
  | issues => .refused issues

/-- Whether a key is a text with surrogates. -/
def hasSurrogates : Key → Bool
  | .name t => t.points.any (·.isSurrogate)
  | _ => false

/-- What the members of a mapping read as, if it has no others.  If a key holds surrogates, there is
one issue with the whole mapping and no other. -/
def closed (es : Entries) (names : List String) (members : Check α) : Check α :=
  match members with
  | .broken fault => .broken fault
  | members =>
    if es.any fun e => hasSurrogates e.1 then issue .notCharacters
    else members <* onlyNames es names

/-! ## Items and texts -/

/-- Reads the items of a list, the first one having the given index. -/
def itemsFrom (read : Value → Check α) (index : Nat) : List Value → Check (List α)
  | [] => .accepted []
  | v :: rest => List.cons <$> (read v).under (.index index) <*> itemsFrom read (index + 1) rest

/-- Reads the items of a list, or gives the given issue. -/
def items (kind : IssueKind) (read : Value → Check α) : Value → Check (List α)
  | .list vs => itemsFrom read 0 vs
  | _ => issue kind

/-- Accepts any value. -/
def anything (v : Value) : Check Value := .accepted v

/-- Reads a text, and nothing else. -/
def exactText : Value → Check Text
  | .text t => .accepted t
  | _ => issue .notText

/-- Reads a text, or bytes that encode one. -/
def text : Value → Check Text
  | .text t => .accepted t
  | .bytes content =>
    let decoded := Text.decodeUtf8 content
    if decoded.fault.isNone then .accepted (.ofChars decoded.chars) else issue .notCharacters
  | _ => issue .notText

/-- The string of a text that holds characters only. -/
def characters (t : Text) : Check String :=
  match t.string? with
  | some s => .accepted s
  | none => issue .notCharacters

/-- Reads a value that may be null. -/
def orNull (read : Value → Check α) : Value → Check (Option α)
  | .null => .accepted none
  | v => some <$> read v

/-- Reads a text or null. -/
def textOrNull : Value → Check (Option Text) := orNull text

/-- The choice of a name. -/
def choose (choices : List (String × α)) (name : String) : Check α :=
  match choices.find? fun c => c.1 = name with
  | some choice => .accepted choice.2
  | none => issue (.notOneOf (choices.map fun c => c.1))

/-- Reads one of the given choices. -/
def oneOf (choices : List (String × α)) (v : Value) : Check α :=
  match v with
  | .text t => (characters t).andThen (choose choices)
  | _ => issue (.notOneOf (choices.map fun c => c.1))

end Check

/-- A text that holds at least one character. -/
structure FilledText where
  text : String
  text_ne : text ≠ ""
deriving DecidableEq

/-- Reads a text of at least one character. -/
def FilledText.read (v : Value) : Check FilledText :=
  (Check.text v).andThen fun t =>
    (Check.characters t).andThen fun s =>
      if h : s ≠ "" then .accepted ⟨s, h⟩ else Check.issue .textTooShort

end Shortlist
