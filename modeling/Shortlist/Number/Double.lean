/-!
# Double-precision numbers as exact values

Thresholds and facts may be integers of any size or double-precision numbers, and the two kinds
are compared exactly.  A finite double is kept here as its place among the doubles of its sign,
counted from zero; place and sign determine it, and its value is a whole multiple of `2 ^ -1074`.
So every comparison and every rounding below is arithmetic on natural numbers and integers.

## Contents

* `FiniteDouble`, with `FiniteDouble.scaled`, the magnitude in units of `2 ^ -1074`.
* `Double`, a finite double, an infinity, or the one value that is not a number.
* `Double.ofRatio`, a quotient rounded to the nearest double, ties to the even neighbour.
* `Double.ofDecimal`, the double that a decimal numeral denotes.
* `Double.add` and `Double.mul`, sums and products rounded to the nearest double.
-/

namespace Shortlist

/-- A power is the one of the core library in every module, whatever algebra is imported beside
it. -/
@[default_instance 20000]
instance (priority := high) instPowOfNatPow {α : Type} [NatPow α] : Pow α Nat := instPowNat

/-- A finite double-precision number.  `rank` is its place among the doubles of its sign, with
zero at place `0`; there are `2047 * 2 ^ 52` places before infinity. -/
structure FiniteDouble where
  negative : Bool
  rank : Nat
  rank_lt : rank < 2047 * 2 ^ 52
deriving DecidableEq

namespace FiniteDouble

/-- The binary place, in units of `2 ^ -1074`, of the last bit of the significand. -/
def shift (x : FiniteDouble) : Nat := x.rank / 2 ^ 52 - 1

/-- The significand: below `2 ^ 53`, and at least `2 ^ 52` above the lowest binade. -/
def significand (x : FiniteDouble) : Nat := x.rank - x.shift * 2 ^ 52

/-- The magnitude in units of `2 ^ -1074`. -/
def scaled (x : FiniteDouble) : Nat := x.significand * 2 ^ x.shift

/-- The value in units of `2 ^ -1074`, with its sign; both zeros give `0`. -/
def signedScaled (x : FiniteDouble) : Int :=
  if x.negative then -(x.scaled : Int) else (x.scaled : Int)

/-- The integer that the number is, if it is one. -/
def integral? (x : FiniteDouble) : Option Int :=
  let n : Nat := x.scaled / 2 ^ 1074
  if x.scaled % 2 ^ 1074 = 0 then some (if x.negative then -(n : Int) else (n : Int)) else none

/-- Positive zero. -/
def zero : FiniteDouble := ⟨false, 0, by decide⟩

end FiniteDouble

/-- A double-precision datum. -/
inductive Double where
  | finite (x : FiniteDouble)
  | infinite (negative : Bool)
  | nan
deriving DecidableEq

/-- The quotient `a / b` rounded to the nearest integer; a half goes to the even neighbour. -/
def roundHalfEven (a b : Nat) : Nat :=
  let q := a / b
  let r := a % b
  if 2 * r < b then q
  else if b < 2 * r then q + 1
  else if q % 2 = 0 then q else q + 1

/-- The number of decimal digits of `n`; zero has one. -/
def digitCount (n : Nat) : Nat := (Nat.toDigits 10 n).length

/-- An unsigned decimal numeral `digits * 10 ^ exponent`. -/
structure Decimal where
  digits : Nat
  exponent : Int
deriving DecidableEq

namespace Decimal

/-- Moves up to `fuel` trailing zeros of the digits into the exponent. -/
def stripZeros : Nat → Decimal → Decimal
  | 0, d => d
  | fuel + 1, d =>
    if d.digits ≠ 0 ∧ d.digits % 10 = 0 then stripZeros fuel ⟨d.digits / 10, d.exponent + 1⟩ else d

/-- The numeral of the same value whose digits do not end in zero. -/
def strip (d : Decimal) : Decimal := stripZeros (digitCount d.digits) d

end Decimal

namespace Double

/-- The double of the given sign at place `rank`; infinity beyond the last place. -/
def ofRank (negative : Bool) (rank : Nat) : Double :=
  if h : rank < 2047 * 2 ^ 52 then .finite ⟨negative, rank, h⟩ else .infinite negative

/-- The double nearest to `a / b` in units of `2 ^ -1074`.  The significand is rounded at the place
that leaves it 53 bits; since places count `2 ^ 52` to a binade, a carry out of the
significand lands on the next binade by itself. -/
def ofScaledRatio (negative : Bool) (a b : Nat) : Double :=
  let place := (a / b).log2 - 52
  ofRank negative (place * 2 ^ 52 + roundHalfEven a (b * 2 ^ place))

/-- The double nearest to `num / den`. -/
def ofRatio (negative : Bool) (num den : Nat) : Double :=
  ofScaledRatio negative (num * 2 ^ 1074) den

/-- The double nearest to a numeral without trailing zeros.  A numeral of more than 310 places
before the point overflows and one with more than 330 zeros after it vanishes, so no huge
power is formed. -/
def ofStripped (negative : Bool) (d : Decimal) : Double :=
  let places := d.exponent + digitCount d.digits
  if d.digits = 0 then ofRank negative 0
  else if places > 310 then .infinite negative
  else if places < -330 then ofRank negative 0
  else if d.exponent ≥ 0 then ofRatio negative (d.digits * 10 ^ d.exponent.toNat) 1
  else ofRatio negative d.digits (10 ^ (-d.exponent).toNat)

/-- The double that a decimal numeral denotes. -/
def ofDecimal (negative : Bool) (d : Decimal) : Double := ofStripped negative d.strip

/-! ## Arithmetic -/

/-- The datum with the opposite sign. -/
def neg : Double → Double
  | .finite x => .finite { x with negative := !x.negative }
  | .infinite negative => .infinite !negative
  | .nan => .nan

/-- The double nearest to a sum.  A sum of zero is negative if both summands are. -/
def add : Double → Double → Double
  | .finite x, .finite y =>
    let sum := x.signedScaled + y.signedScaled
    ofScaledRatio (sum < 0 || (sum = 0 && x.negative && y.negative)) sum.natAbs 1
  | .infinite a, .infinite b => if a = b then .infinite a else .nan
  | .nan, _ | _, .nan => .nan
  | .infinite a, .finite _ | .finite _, .infinite a => .infinite a

/-- The double nearest to a product. -/
def mul : Double → Double → Double
  | .finite x, .finite y =>
    ofScaledRatio (x.negative ^^ y.negative) (x.scaled * y.scaled) (2 ^ 1074)
  | .infinite a, .infinite b => .infinite (a ^^ b)
  | .nan, _ | _, .nan => .nan
  | .infinite a, .finite x | .finite x, .infinite a =>
    if x.rank = 0 then .nan else .infinite (a ^^ x.negative)

/-- Whether the datum is a number that is not infinite. -/
def isFinite : Double → Bool
  | .finite _ => true
  | _ => false

end Double

end Shortlist
