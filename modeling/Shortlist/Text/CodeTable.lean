import Shortlist.Number.Numeral

/-!
# Tables of code points

Large tables are kept as text.  A word of a table such as `C0=41+300` gives a code point the code
points that it stands for, in hexadecimal digits.  With a range in front of the sign the last code
point counts on along the range (`2160-2162=69`), and with a colon in the place of the sign all of
the range stand for the same (`132-133:69+6A`).
-/

namespace Shortlist.Text

/-- A run of code points that stand for others. -/
structure CodeRun where
  first : Nat
  last : Nat
  target : List Nat
  counts : Bool

/-- Runs of code points. -/
abbrev CodeTable := List CodeRun

namespace CodeTable

/-- The number that hexadecimal digits say. -/
def codeOf (cs : List Char) : Nat := cs.foldl (fun n c => n * 16 + (hexValue? c).getD 0) 0

/-- The run that a word of a table says. -/
def runOf (word : List Char) : CodeRun :=
  let isSign := fun c => c = '=' || c = ':'
  let source := word.takeWhile (!isSign ·)
  let rest := word.dropWhile (!isSign ·)
  let bounds := (source.splitOn '-').map codeOf
  let target := ((rest.drop 1).splitOn '+').map codeOf
  ⟨bounds.headD 0, bounds.getLastD 0, target, rest.head? = some '='⟩

/-- The table of lines of words. -/
def ofLines (lines : List String) : CodeTable :=
  lines.flatMap fun line => (line.toList.splitOn ' ').map runOf

/-- What a code point stands for. -/
def target? (table : CodeTable) (n : Nat) : Option (List Nat) :=
  (table.find? fun r => r.first ≤ n && n ≤ r.last).map fun r =>
    if r.counts then r.target.map (· + (n - r.first)) else r.target

example : (runOf "2160-2162=69".toList).target = [0x69] := by decide

end CodeTable

end Shortlist.Text
