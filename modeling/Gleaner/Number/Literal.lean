import Gleaner.Number.Basic
import Gleaner.Text.Digits

/-!
# Number literals

The literals of JSON, which fit no more than 64 bits of digits and are scaled by one power of
ten, and the decimal literals that are rounded once.
-/

namespace Gleaner

namespace Literal

/-- The greatest significand that is kept exactly. -/
def maxSignificand : Nat := 18446744073709551615

/-- The digits that still fit behind the significand are taken in, with their number; from the
first one that does not fit on, the others are left. -/
def accumulate (significand : Nat) : List Char → Nat × Nat × List Char
  | [] => (significand, 0, [])
  | c :: rest =>
      let next := 10 * significand + Text.digitValue c
      if maxSignificand < next then (significand, 0, c :: rest)
      else
        let (significand, taken, left) := accumulate next rest
        (significand, taken + 1, left)

/-- Greatest exponent whose power of ten is a binary64 number. -/
def maxPower : Nat := 308

/-- The binary64 number nearest to `10^exponent`. -/
def power? (exponent : Nat) : Option Binary64 :=
  Binary64.ofRatio? false (Nat.pow 10 exponent) 1

/-- The number divided by `10^exponent`, in steps of the greatest power. -/
def scaleDown : Nat → Binary64 → Nat → Option Binary64
  | 0, x, _ => some x
  | fuel + 1, x, exponent =>
      if exponent ≤ maxPower then (power? exponent).bind x.div?
      else if x.mantissa = 0 then some x
      else ((power? maxPower).bind x.div?).bind fun x => scaleDown fuel x (exponent - maxPower)

/-- The significand as a binary64 number, multiplied or divided by the power of ten as a
binary64 number; `none` if it is too large. -/
def scale? (negative : Bool) (significand : Nat) (exponent : Int) : Option Binary64 :=
  (Binary64.ofRatio? negative significand 1).bind fun x =>
    if exponent < 0 then scaleDown 8 x exponent.natAbs
    else if exponent.natAbs ≤ maxPower then (power? exponent.natAbs).bind x.mul?
    else if x.mantissa = 0 then some x
    else none

/-- The parts of a literal. -/
structure Parts where
  /-- It starts with a minus sign. -/
  negative : Bool
  /-- The digits before the point. -/
  whole : List Char
  /-- The digits after the point, if there is one. -/
  fraction : Option (List Char)
  /-- Whether the exponent is negative, and its digits, if there is one. -/
  exponent : Option (Bool × List Char)

/-- The exponent beyond which no further digits of an exponent are read. -/
def maxExponent : Nat := 2147483647

/-- The value of a literal with a point, an exponent or too many digits. -/
def floatValue? (parts : Parts) : Option Binary64 :=
  let (significand, _, dropped) := accumulate 0 parts.whole
  let (significand, taken, _) := accumulate significand (parts.fraction.getD [])
  let shift : Int := dropped.length - taken
  match parts.exponent with
  | none => scale? parts.negative significand shift
  | some (negative, digits) =>
      let exponent : Int := Text.decimalNumber digits
      if (maxExponent : Int) < exponent then
        if negative || significand == 0 then some (Binary64.zero parts.negative) else none
      else
        scale? parts.negative significand (shift + if negative then -exponent else exponent)

/-- The value of a literal: an integer if it is written as one and fits 64 bits, else a binary64
number; minus zero is one too.  `none` if it is too large. -/
def value? (parts : Parts) : Option Number :=
  let value := Text.decimalNumber parts.whole
  let isInteger := parts.fraction.isNone && parts.exponent.isNone
  if isInteger && ! parts.negative && value ≤ maxSignificand then
    some (.integer value)
  else if isInteger && parts.negative && 0 < value && value ≤ 9223372036854775808 then
    some (.integer (-value))
  else
    (floatValue? parts).map Number.float

/-- The digits at the start of a text, and the rest. -/
def takeDigits (text : List Char) : List Char × List Char :=
  (text.takeWhile Char.isDigit, text.dropWhile Char.isDigit)

/-- The exponent at the start of a text after its `e`: its sign, its digits and the rest. -/
def takeExponent? (text : List Char) : Option (Bool × List Char × List Char) :=
  let (negative, text) := match text with
    | '+' :: rest => (false, rest)
    | '-' :: rest => (true, rest)
    | _ => (false, text)
  match takeDigits text with
  | ([], _) => none
  | (digits, rest) => some (negative, digits, rest)

/-- The correctly rounded value of `digits * 10^exponent`; `none` if it is too large. -/
def rounded? (negative : Bool) (digits : Nat) (exponent : Int) : Option Binary64 :=
  if digits = 0 then some (Binary64.zero negative)
  else if exponent < -100000 then some (Binary64.zero negative)
  else if 100000 < exponent then none
  else
    let (num, den) := Decimal.scaled digits 1 (-exponent)
    Binary64.ofRatio? negative num den

/-- The number that a decimal text stands for, rounded once: an optional sign, digits with an
optional point among or around them, and an optional exponent.  The outer `none` means that the
text is no decimal, the inner one that the number is not finite; the words for infinity and for
no number at all are read without regard to case. -/
def decimal? (text : List Char) : Option (Option Binary64) :=
  let (negative, text) := match text with
    | '+' :: rest => (false, rest)
    | '-' :: rest => (true, rest)
    | _ => (false, text)
  let word := String.ofList (text.map Char.toLower)
  if word == "inf" || word == "infinity" || word == "nan" then some none
  else
    let (whole, rest) := takeDigits text
    let (fraction, rest) := match rest with
      | '.' :: rest => takeDigits rest
      | _ => ([], rest)
    if whole.isEmpty && fraction.isEmpty then none
    else
      let digits := Text.decimalNumber (whole ++ fraction)
      let shift : Int := -(fraction.length : Int)
      match rest with
      | [] => some (rounded? negative digits shift)
      | e :: rest =>
          if e == 'e' || e == 'E' then
            match takeExponent? rest with
            | some (down, exponent, []) =>
                let exponent : Int := Text.decimalNumber exponent
                some (rounded? negative digits (shift + if down then -exponent else exponent))
            | _ => none
          else
            none

end Literal

end Gleaner
