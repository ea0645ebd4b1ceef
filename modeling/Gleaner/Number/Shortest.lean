import Gleaner.Number.Binary64

/-!
# Shortest decimals

Among the decimals that round to a given number, the ones with the fewest digits, and of those
the one nearest to the number.
-/

namespace Gleaner

/-- The decimal `digits * 10^exponent`. -/
structure Decimal where
  /-- The digits as a number. -/
  digits : Nat
  /-- The exponent of ten of the last digit. -/
  exponent : Int
  deriving DecidableEq, Repr

namespace Decimal

/-- The quotient `num / den` divided by `10^exponent`, as a quotient of naturals. -/
def scaled (num den : Nat) (exponent : Int) : Nat × Nat :=
  if exponent < 0 then (num * Nat.pow 10 exponent.natAbs, den)
  else (num, den * Nat.pow 10 exponent.natAbs)

/-- The exponent of ten of the first digit of a positive quotient: the estimate from its length
in bits is off by one at most. -/
def leadingExponent (num den : Nat) : Int :=
  let guess := Int.fdiv (((num.log2 : Int) - den.log2) * 30103) 100000
  let reaches (exponent : Int) : Bool :=
    let (top, bottom) := scaled num den exponent
    bottom ≤ top
  if reaches (guess + 1) then guess + 1
  else if reaches guess then guess
  else guess - 1

/-- The decimals that round to a number: its neighbourhood, as bounds over one denominator. -/
structure Interval where
  /-- Numerator of the lower bound. -/
  low : Nat
  /-- Numerator of the upper bound. -/
  high : Nat
  /-- The denominator. -/
  den : Nat
  /-- The bounds themselves round to the number too. -/
  closed : Bool

/-- The neighbourhood of a positive number: halfway to the numbers next to it.  The one below is
nearer if the mantissa is the least of its length. -/
def neighbourhood (x : Binary64) : Interval :=
  let least := x.mantissa = Binary64.mantissaBound / 2 ∧ x.exponent ≠ Binary64.minExponent
  let (unit, den) := Binary64.scaled 1 4 (-x.exponent)
  { low := (4 * x.mantissa - if least then 1 else 2) * unit
    high := (4 * x.mantissa + 2) * unit
    den
    closed := x.mantissa % 2 = 0 }

/-- The decimal lies in the neighbourhood. -/
def within (interval : Interval) (decimal : Decimal) : Bool :=
  let (num, den) := scaled decimal.digits 1 (-decimal.exponent)
  let value := num * interval.den
  let low := interval.low * den
  let high := interval.high * den
  if interval.closed then low ≤ value && value ≤ high else low < value && value < high

/-- The decimals next to a positive number on a grid of powers of ten, the nearer one first; the
even one if both are equally near. -/
def neighbours (x : Binary64) (exponent : Int) : List Decimal :=
  let (num, den) := x.ratio
  let (top, bottom) := scaled num den exponent
  let below : Decimal := { digits := top / bottom, exponent }
  let above : Decimal := { digits := top / bottom + 1, exponent }
  let twice := 2 * (top % bottom)
  if twice < bottom ∨ (twice = bottom ∧ top / bottom % 2 = 0) then [below, above]
  else [above, below]

/-- The first decimal that rounds to the number on the grids from `exponent` down. -/
def search (x : Binary64) : Nat → Int → Decimal
  | 0, exponent => { digits := 0, exponent }
  | count + 1, exponent =>
      match (neighbours x exponent).find? (within (neighbourhood x)) with
      | some decimal => decimal
      | none => search x count (exponent - 1)

/-- The shortest decimal that rounds to a positive number; seventeen digits always suffice. -/
def shortest (x : Binary64) : Decimal :=
  let (num, den) := x.ratio
  search x 17 (leadingExponent num den)

end Decimal

end Gleaner
