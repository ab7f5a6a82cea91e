import Shortlist.Number.Double

/-!
# The shortest decimal that reads back

A double is written with the fewest significant digits that denote it, and among numerals of that
length with the nearest one.  `FiniteDouble.shortest` finds the digits: for one digit, two digits
and so on it looks at the two neighbours of the value on that decimal grid and keeps one that
`Double.ofDecimal` reads back.  Should no grid of seventeen digits serve, the exact decimal
expansion is used, so a numeral is always found.

Where the digits are placed is the business of the document that holds the number.  A `Layout`
says which exponents are written out in full and how many digits an exponent has.
-/

namespace Shortlist

namespace FiniteDouble

/-- The number of places before the decimal point: `10 ^ (k - 1) ≤ |x| < 10 ^ k` for nonzero `x`. -/
def decimalPlaces (x : FiniteDouble) : Int :=
  (digitCount (x.scaled * 10 ^ 400 / 2 ^ 1074) : Int) - 400

/-- The magnitude in units of `10 ^ exponent`, as a fraction. -/
def overUnit (x : FiniteDouble) (exponent : Int) : Nat × Nat :=
  if exponent ≥ 0 then (x.scaled, 2 ^ 1074 * 10 ^ exponent.toNat)
  else (x.scaled * 10 ^ (-exponent).toNat, 2 ^ 1074)

/-- Whether a numeral of the sign of `x` denotes `x`. -/
def isDenotedBy (x : FiniteDouble) (d : Decimal) : Bool :=
  Double.ofDecimal x.negative d = .finite x

/-- Of the two neighbours of a fraction on the grid of an exponent, the nearer one that denotes; the
even one at equal distance. -/
def choose? (denotes : Decimal → Bool) (fraction : Nat × Nat) (exponent : Int) : Option Decimal :=
  let below : Decimal := ⟨fraction.1 / fraction.2, exponent⟩
  let above : Decimal := ⟨fraction.1 / fraction.2 + 1, exponent⟩
  let nearest : Decimal := ⟨roundHalfEven fraction.1 fraction.2, exponent⟩
  if denotes nearest then some nearest
  else if denotes below then some below
  else if denotes above then some above
  else none

/-- A numeral of `n` digits that denotes `x`: one of the two neighbours of `x` on that grid. -/
def neighbour? (x : FiniteDouble) (n : Nat) : Option Decimal :=
  let exponent := x.decimalPlaces - n
  choose? x.isDenotedBy (x.overUnit exponent) exponent

/-- The exact decimal expansion. -/
def expansion (x : FiniteDouble) : Decimal := ⟨x.scaled * 5 ^ 1074, -1074⟩

/-- The shortest numeral that denotes a nonzero `x`, without trailing zeros. -/
def shortest (x : FiniteDouble) : Decimal :=
  let numeral := ((List.range' 1 17).findSome? x.neighbour?).getD x.expansion
  numeral.strip

end FiniteDouble

/-- How a document lays out the digits of a number. -/
structure Layout where
  /-- The least decimal exponent written out in full. -/
  least : Int
  /-- The greatest decimal exponent written out in full. -/
  greatest : Int
  /-- The least number of digits in a written exponent. -/
  exponentWidth : Nat

namespace Layout

/-- Messages and reports write exponents from -4 to 15 in full and give others two digits. -/
def report : Layout := ⟨-4, 15, 2⟩

/-- Record lines write exponents from -5 to 15 in full and do not pad others. -/
def record : Layout := ⟨-5, 15, 1⟩

/-- The digits of `n`, preceded by zeros up to the width. -/
def padded (width n : Nat) : List Char :=
  let ds := Nat.toDigits 10 n
  List.replicate (width - ds.length) '0' ++ ds

/-- The decimal exponent of the leading digit. -/
def leading (d : Decimal) : Int := d.exponent + digitCount d.digits - 1

/-- The text of a numeral written out in full. -/
def positional (d : Decimal) : List Char :=
  let ds := Nat.toDigits 10 d.digits
  let before := leading d + 1
  if d.exponent ≥ 0 then ds ++ List.replicate d.exponent.toNat '0' ++ ['.', '0']
  else if before > 0 then ds.take before.toNat ++ '.' :: ds.drop before.toNat
  else '0' :: '.' :: List.replicate (-before).toNat '0' ++ ds

/-- The text of a numeral with an exponent, whose sign is always written. -/
def scientific (layout : Layout) (d : Decimal) : List Char :=
  let exponent := leading d
  let mantissa := match Nat.toDigits 10 d.digits with
    | [c] => [c]
    | c :: rest => c :: '.' :: rest
    | [] => []
  let sign := if exponent < 0 then '-' else '+'
  mantissa ++ 'e' :: sign :: padded layout.exponentWidth exponent.natAbs

/-- The text of a finite double. -/
def write (layout : Layout) (x : FiniteDouble) : List Char :=
  let magnitude :=
    if x.rank = 0 then ['0', '.', '0']
    else
      let d := x.shortest
      if layout.least ≤ leading d ∧ leading d ≤ layout.greatest then positional d
      else layout.scientific d
  if x.negative then '-' :: magnitude else magnitude

end Layout

end Shortlist
