import Shortlist.Text.Quoted

/-!
# Identifiers

An id is a word for the kind of thing, an underscore, and a number drawn for it as 32 hexadecimal
digits.
-/

namespace Shortlist

/-- The id of a drawn number. -/
def identifier (word : String) (number : Nat) : String :=
  word ++ "_" ++ String.ofList (Text.hexDigits 32 number)

/-- Where numbers are drawn from: first the given ones, then the ones from `next` on. -/
structure IdSource where
  draws : List Nat := []
  next : Nat := 1
deriving DecidableEq

namespace IdSource

/-- Draws a number. -/
def draw (s : IdSource) : Nat × IdSource :=
  match s.draws with
  | n :: rest => (n, { s with draws := rest })
  | [] => (s.next, { s with next := s.next + 1 })

/-- Draws an id for a kind of thing. -/
def fresh (s : IdSource) (word : String) : String × IdSource :=
  (identifier word s.draw.1, s.draw.2)

/-- Draws as many ids for a kind of thing. -/
def freshMany (s : IdSource) (word : String) : Nat → List String × IdSource
  | 0 => ([], s)
  | n + 1 =>
    let (id, s) := s.fresh word
    let (ids, s) := s.freshMany word n
    (id :: ids, s)

end IdSource

end Shortlist
