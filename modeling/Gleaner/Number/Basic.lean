import Gleaner.Number.Shortest

/-!
# Numbers

A number is kept as an integer or as a binary64 number, the way its document wrote it.  Numbers
have two written forms: the exact one tells integers from fractions, the plain one does not.
-/

namespace Gleaner

/-- A number of a document. -/
inductive Number where
  /-- An integer. -/
  | integer (value : Int)
  /-- A binary64 number. -/
  | float (value : Binary64)
  deriving DecidableEq, Repr

/-- How decimals are laid out. -/
structure DecimalLayout where
  /-- Least exponent of the first digit that is written with a leading zero. -/
  minPlain : Int
  /-- Greatest exponent of the first digit that is written without an exponent. -/
  maxPlain : Int
  /-- What whole values end in. -/
  wholeEnding : String
  /-- What stands between the digits and a positive exponent. -/
  positiveExponent : String
  /-- What stands between the digits and a negative exponent. -/
  negativeExponent : String

namespace Decimal

/-- The same decimal without trailing zeros. -/
def stripped : Nat → Decimal → Decimal
  | 0, decimal => decimal
  | fuel + 1, decimal =>
      if decimal.digits ≠ 0 ∧ decimal.digits % 10 = 0 then
        stripped fuel { digits := decimal.digits / 10, exponent := decimal.exponent + 1 }
      else
        decimal

/-- As many zeros. -/
def zeros (count : Nat) : List Char :=
  List.replicate count '0'

/-- The written form of a positive decimal. -/
def write (layout : DecimalLayout) (decimal : Decimal) : String :=
  let digits := (toString decimal.digits).toList
  let leading := decimal.exponent + digits.length - 1
  if layout.minPlain ≤ leading ∧ leading ≤ layout.maxPlain then
    if leading < 0 then
      "0." ++ String.ofList (zeros (leading.natAbs - 1) ++ digits)
    else
      let point := leading.natAbs + 1
      if digits.length ≤ point then
        String.ofList (digits ++ zeros (point - digits.length)) ++ layout.wholeEnding
      else
        String.ofList (digits.take point) ++ "." ++ String.ofList (digits.drop point)
  else
    let fraction := digits.drop 1
    let mantissa :=
      String.ofList (digits.take 1) ++
        if fraction.isEmpty then "" else "." ++ String.ofList fraction
    mantissa ++
      (if leading < 0 then layout.negativeExponent else layout.positiveExponent) ++
      toString leading.natAbs

end Decimal

namespace Number

/-- Floats are written plainly from `0.00001` up to below `10^16` and keep a fraction; beyond
that they have an exponent with a sign. -/
def layout : DecimalLayout where
  minPlain := -5
  maxPlain := 15
  wholeEnding := ".0"
  positiveExponent := "e+"
  negativeExponent := "e-"

/-- The exact written form of a float: the shortest digits that read back. -/
def renderFloat (x : Binary64) : String :=
  let magnitude :=
    if x.mantissa = 0 then "0" ++ layout.wholeEnding
    else ((Decimal.shortest x).stripped 17).write layout
  if x.negative then "-" ++ magnitude else magnitude

/-- The exact written form. -/
def render : Number → String
  | integer value => toString value
  | float value => renderFloat value

/-- Whole floats below this bound are plainly written as integers. -/
def plainBound : Nat := 1000000000000000

/-- The plain written form: a whole float below `10^15` in magnitude is written as an integer. -/
def plain : Number → String
  | integer value => toString value
  | float value =>
      match value.whole? with
      | some magnitude =>
          if magnitude < plainBound then
            toString (if value.negative then -(magnitude : Int) else magnitude)
          else
            renderFloat value
      | none => renderFloat value

end Number

end Gleaner
