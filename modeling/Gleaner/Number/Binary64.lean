/-!
# Finite binary64 numbers

A finite binary64 number is a sign, a mantissa and an exponent of two.  All operations are exact
integer arithmetic followed by one rounding to nearest, ties to the even mantissa.
-/

namespace Gleaner

/-- The number `(-1)^negative * mantissa * 2^exponent`.  The mantissa is below `2^53`, and it is
at least `2^52` unless the exponent is the least one. -/
structure Binary64 where
  /-- The number carries a minus sign. -/
  negative : Bool
  /-- The mantissa. -/
  mantissa : Nat
  /-- The exponent of two. -/
  exponent : Int
  deriving DecidableEq, Repr

namespace Binary64

/-- The least exponent. -/
def minExponent : Int := -1074

/-- The greatest exponent. -/
def maxExponent : Int := 971

/-- The mantissas lie below this bound. -/
def mantissaBound : Nat := 9007199254740992

/-- Zero with a sign. -/
def zero (negative : Bool) : Binary64 where
  negative := negative
  mantissa := 0
  exponent := minExponent

/-- The quotient rounded to nearest, ties to even. -/
def roundDiv (num den : Nat) : Nat :=
  let quotient := num / den
  let twice := 2 * (num % den)
  if twice < den then quotient
  else if den < twice then quotient + 1
  else quotient + quotient % 2

/-- The quotient `num / den` divided by `2^exponent`, as a quotient of naturals. -/
def scaled (num den : Nat) (exponent : Int) : Nat × Nat :=
  if exponent < 0 then (num * Nat.pow 2 exponent.natAbs, den)
  else (num, den * Nat.pow 2 exponent.natAbs)

/-- The exponent under which a positive quotient has a mantissa of full length. -/
def exponentOf (num den : Nat) : Int :=
  let least := max minExponent ((num.log2 : Int) - den.log2 - 53)
  let (top, bottom) := scaled num den least
  if top / bottom < mantissaBound then least else least + 1

/-- The number nearest to `num / den`, which needs a positive `den`; `none` if it is too large. -/
def ofRatio? (negative : Bool) (num den : Nat) : Option Binary64 :=
  if num = 0 then some (zero negative)
  else
    let exponent := exponentOf num den
    let (top, bottom) := scaled num den exponent
    let rounded := roundDiv top bottom
    let (mantissa, exponent) :=
      if rounded = mantissaBound then (mantissaBound / 2, exponent + 1) else (rounded, exponent)
    if maxExponent < exponent then none else some { negative, mantissa, exponent }

/-- The magnitude as a quotient of naturals. -/
def ratio (x : Binary64) : Nat × Nat :=
  scaled x.mantissa 1 (-x.exponent)

/-- The rounded product of a number and a positive one. -/
def mul? (x y : Binary64) : Option Binary64 :=
  let (a, b) := x.ratio
  let (c, d) := y.ratio
  ofRatio? x.negative (a * c) (b * d)

/-- The rounded quotient of a number and a positive one. -/
def div? (x y : Binary64) : Option Binary64 :=
  let (a, b) := x.ratio
  let (c, d) := y.ratio
  ofRatio? x.negative (a * d) (b * c)

/-- The magnitude if it is a whole number. -/
def whole? (x : Binary64) : Option Nat :=
  let (num, den) := x.ratio
  if num % den = 0 then some (num / den) else none

end Binary64

end Gleaner
