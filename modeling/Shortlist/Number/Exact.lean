import Shortlist.Number.Double

/-!
# Numbers compared exactly

A number is an integer of any size or a finite double.  `Number.scaled` is its value in units of
`2 ^ -1074`, of which both kinds are whole multiples, so two numbers compare as integers and
nothing is rounded.
-/

namespace Shortlist

/-- An integer of any size or a finite double. -/
inductive Number where
  | int (n : Int)
  | double (x : FiniteDouble)
deriving DecidableEq

namespace Number

/-- The exact value in units of `2 ^ -1074`. -/
def scaled : Number → Int
  | .int n => n * 2 ^ 1074
  | .double x => x.signedScaled

/-- The integer that the number is, if it is one. -/
def integral? : Number → Option Int
  | .int n => some n
  | .double x => x.integral?

/-- Whether the number has a finite double nearest to it.  Every double has; an integer has when
it lies below the middle between the greatest double and `2 ^ 1024`. -/
def fitsDouble : Number → Bool
  | .int n => n.natAbs < 2 ^ 1024 - 2 ^ 970
  | .double _ => true

end Number

/-- The comparisons of a threshold. -/
inductive Comparison where
  | atLeast
  | atMost
  | above
  | below
  | equal
deriving DecidableEq

namespace Comparison

/-- All comparisons, in the order in which messages list them. -/
def all : List Comparison := [.atLeast, .atMost, .above, .below, .equal]

/-- The written form of a comparison. -/
def symbol : Comparison → String
  | .atLeast => ">="
  | .atMost => "<="
  | .above => ">"
  | .below => "<"
  | .equal => "=="

/-- The comparison with the given written form. -/
def ofSymbol? (s : String) : Option Comparison := all.find? (·.symbol = s)

/-- Whether the comparison holds between two integers. -/
def holds : Comparison → Int → Int → Bool
  | .atLeast, a, b => b ≤ a
  | .atMost, a, b => a ≤ b
  | .above, a, b => b < a
  | .below, a, b => a < b
  | .equal, a, b => a = b

theorem ofSymbol?_symbol (c : Comparison) : ofSymbol? c.symbol = some c := by
  cases c <;> decide

end Comparison

end Shortlist
