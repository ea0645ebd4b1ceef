/-!
# Digits

The numbers that digits spell, in base ten, in base sixteen and in any base up to that.
-/

namespace Gleaner.Text

/-- The number that a decimal digit stands for. -/
def digitValue (c : Char) : Nat :=
  c.toNat - '0'.toNat

/-- The number that decimal digits spell. -/
def decimalNumber (digits : List Char) : Nat :=
  digits.foldl (fun value c => 10 * value + digitValue c) 0

theorem decimalNumber_concat (digits : List Char) (c : Char) :
    decimalNumber (digits ++ [c]) = 10 * decimalNumber digits + digitValue c := by
  simp [decimalNumber]

/-- The number that a hexadecimal digit stands for. -/
def hexDigit? (c : Char) : Option Nat :=
  if '0' ≤ c ∧ c ≤ '9' then some (digitValue c)
  else if 'a' ≤ c ∧ c ≤ 'f' then some (c.toNat - 'a'.toNat + 10)
  else if 'A' ≤ c ∧ c ≤ 'F' then some (c.toNat - 'A'.toNat + 10)
  else none

/-- The number that the hexadecimal digits of the text spell; other characters are skipped. -/
def hexNumber (text : List Char) : Nat :=
  (text.filterMap hexDigit?).foldl (fun value digit => 16 * value + digit) 0

end Gleaner.Text
