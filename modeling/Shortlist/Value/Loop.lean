import Shortlist.Value.Dump

/-!
# Values that are part of themselves

A `Value.loop` says how far up the list or mapping is that it stands for.  As long as it stays in
its place this is all there is to know.  But what is taken out of a list or mapping may come round
to something that it has been taken out of.  `Value.close` puts that in its stead, so that the value
stands on its own, and `Value.opened` does so with all that is in a list or mapping.

`Value.copied` is a copy of a value.  Lists, mappings and pairs are made anew, as deep as they are
gone through.  A value that comes round to itself is not gone through again: there the copy holds
what the value held, the original.  So such a value has a copy that goes round once more than it
does, and only a value that does not come round has a copy like itself.
-/

namespace Shortlist

namespace Value

mutual

/-- Whether a value comes round to something beyond the lists and mappings right around it, if there
are so many of these. -/
def refersBeyond : Nat → Value → Bool
  | depth, .loop _ up => depth ≤ up
  | depth, .list items => anyRefersBeyond (depth + 1) items
  | depth, .pair first second => refersBeyond depth first || refersBeyond depth second
  | depth, .mapping entries => anyEntryRefersBeyond (depth + 1) entries
  | _, _ => false

/-- Whether a value of a list does. -/
def anyRefersBeyond : Nat → List Value → Bool
  | _, [] => false
  | depth, v :: rest => refersBeyond depth v || anyRefersBeyond depth rest

/-- Whether a value of a mapping does. -/
def anyEntryRefersBeyond : Nat → List (Key × Value) → Bool
  | _, [] => false
  | depth, (_, v) :: rest => refersBeyond depth v || anyEntryRefersBeyond depth rest

end

mutual

/-- The value with what it comes round to beyond so many lists and mappings put in there.  These
are given from the inmost on, and each stands on its own. -/
def close (around : List Value) : Nat → Value → Value
  | depth, .loop isMapping up =>
    if up < depth then .loop isMapping up else around.getD (up - depth) .null
  | depth, .list items => .list (closeAll around (depth + 1) items)
  | depth, .pair first second => .pair (close around depth first) (close around depth second)
  | depth, .mapping entries => .mapping (closeEntries around (depth + 1) entries)
  | _, v => v

/-- The values of a list with what they come round to put in. -/
def closeAll (around : List Value) : Nat → List Value → List Value
  | _, [] => []
  | depth, v :: rest => close around depth v :: closeAll around depth rest

/-- The entries of a mapping with what their values come round to put in. -/
def closeEntries (around : List Value) : Nat → List (Key × Value) → List (Key × Value)
  | _, [] => []
  | depth, (k, v) :: rest => (k, close around depth v) :: closeEntries around depth rest

end

/-- The list or mapping with each value in it on its own. -/
def opened : Value → Value
  | .list items => .list (closeAll [.list items] 0 items)
  | .mapping entries => .mapping (closeEntries [.mapping entries] 0 entries)
  | v => v

mutual

/-- A copy of a value that goes so many levels deep.  `around` are the originals of the lists and
mappings around it, from the inmost on. -/
def copy : Nat → List Value → Value → Value
  | levels + 1, around, .list items =>
    .list (copyAll levels ((Value.list items).close around 0 :: around) items)
  | levels + 1, around, .pair first second =>
    .pair (copy levels around first) (copy levels around second)
  | levels + 1, around, .mapping entries =>
    .mapping (copyEntries levels ((Value.mapping entries).close around 0 :: around) entries)
  | _, around, v => v.close around 0

/-- The values of a list, copied. -/
def copyAll : Nat → List Value → List Value → List Value
  | _, _, [] => []
  | levels, around, v :: rest => copy levels around v :: copyAll levels around rest

/-- The entries of a mapping, their values copied. -/
def copyEntries : Nat → List Value → List (Key × Value) → List (Key × Value)
  | _, _, [] => []
  | levels, around, (k, v) :: rest => (k, copy levels around v) :: copyEntries levels around rest

end

/-- A copy of a value that stands on its own. -/
def copied (v : Value) : Value := v.copy depthLimit []

end Value

end Shortlist
