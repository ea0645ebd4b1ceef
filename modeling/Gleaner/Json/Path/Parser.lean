import Gleaner.Json.Path
import Gleaner.Text.Bytes
import Gleaner.Text.Digits

/-!
# Paths from text

A path is spelt as an optional `$`, an optional bare name, and steps: `.name`, `[*]`, `[number]`
and names in quotes and brackets.  A text that is no path is reported where the first thing
stands that is no step.
-/

namespace Gleaner.Json

/-- The character may stand in a bare name. -/
def isBareChar (c : Char) : Bool :=
  c != '.' && c != '[' && c != ']'

/-- The bare name at the start of a text, and the text after it. -/
def takeBare? (text : List Char) : Option (String × List Char) :=
  match text.takeWhile isBareChar with
  | [] => none
  | name => some (String.ofList name, text.dropWhile isBareChar)

/-- The least number that an index can be. -/
def minIndex : Int := -9223372036854775808

/-- The greatest number that an index can be. -/
def maxIndex : Int := 9223372036854775807

/-- The number whose digits start a text, negative if a minus sign stands in front, and the text
after it: the first digit is not zero, and the number fits in 64 bits. -/
def takeDigits? (negative : Bool) (text : List Char) : Option (Int × List Char) :=
  match text.takeWhile Char.isDigit with
  | [] => none
  | '0' :: _ => none
  | digits =>
      let magnitude : Int := Text.decimalNumber digits
      let value := if negative then -magnitude else magnitude
      if minIndex ≤ value ∧ value ≤ maxIndex then some (value, text.dropWhile Char.isDigit)
      else none

/-- The number at the start of a text, and the text after it: zero without a sign, or digits
behind an optional sign. -/
def takeIndex? : List Char → Option (Int × List Char)
  | '0' :: rest => some (0, rest)
  | '+' :: rest => takeDigits? false rest
  | '-' :: rest => takeDigits? true rest
  | text => takeDigits? false text

/-- The name in quotes at the start of a text, and the text after it. -/
def takeQuoted? : List Char → Option (String × List Char)
  | [] => none
  | mark :: rest =>
      if mark == '\'' || mark == '"' then
        match rest.dropWhile (· != mark) with
        | [] => none
        | _ :: after => some (String.ofList (rest.takeWhile (· != mark)), after)
      else
        none

/-- What stands between brackets at the start of a text, and the text after it. -/
def takeBracketed? (text : List Char) : Option (Step × List Char) :=
  match text with
  | '*' :: rest => some (.wildcard, rest)
  | _ =>
      match takeIndex? text with
      | some (position, rest) => some (.index position, rest)
      | none => (takeQuoted? text).map fun (name, rest) => (.key name, rest)

/-- The step at the start of a text, and the text after it. -/
def takeStep? : List Char → Option (Step × List Char)
  | '.' :: rest => (takeBare? rest).map fun (name, rest) => (.key name, rest)
  | '[' :: rest =>
      match takeBracketed? rest with
      | some (step, ']' :: rest) => some (step, rest)
      | _ => none
  | _ => none

/-- The steps at the start of a text, as many as there are, and the text after them. -/
def takeSteps : Nat → List Char → Path × List Char
  | 0, text => ([], text)
  | fuel + 1, text =>
      match takeStep? text with
      | some (step, rest) =>
          let (path, rest) := takeSteps fuel rest
          (step :: path, rest)
      | none => ([], text)

/-- The text after an optional `$`. -/
def skipRoot : List Char → List Char
  | '$' :: rest => rest
  | text => text

/-- The longest path at the start of a text, and the text after it. -/
def takePath (text : List Char) : Path × List Char :=
  match takeBare? (skipRoot text) with
  | some (name, rest) =>
      let (path, rest) := takeSteps rest.length rest
      (.key name :: path, rest)
  | none => takeSteps (skipRoot text).length (skipRoot text)

/-- A text that is no path: the part that was read, and the part that starts with no step. -/
structure BadPath where
  /-- The longest part that is a path. -/
  accepted : List Char
  /-- What follows it. -/
  rest : List Char
  deriving DecidableEq, Repr

/-- Number of bytes in front of the part that is no step. -/
def BadPath.offset (bad : BadPath) : Nat :=
  Text.byteLength bad.accepted

/-- The path that a text spells. -/
def Path.ofText (text : List Char) : Except BadPath Path :=
  match takePath text with
  | (path, []) => .ok path
  | (_, rest) => .error { accepted := text.take (text.length - rest.length), rest }

/-- The path that a string spells. -/
def Path.parse (text : String) : Except BadPath Path :=
  Path.ofText text.toList

end Gleaner.Json
