import Gleaner.Html.Reference.Names
import Gleaner.Unicode.Ranges

/-!
# Character references

An ampersand in markup may open a reference to characters, by a name or by the number of a code
point.  One that opens no reference stands for itself.
-/

namespace Gleaner.Html.Reference

/-- A name of characters. -/
structure Named where
  /-- The name, without ampersand and semicolon. -/
  name : List Char
  /-- The semicolon after the name may be left out. -/
  mayBeOpen : Bool
  /-- The characters that the name stands for. -/
  meaning : List Char

/-- The name that one word of the table describes. -/
def Named.ofWord (word : String) : Named :=
  let name := word.toList.takeWhile Char.isAlphanum
  let rest := word.toList.drop name.length
  { name
    mayBeOpen := rest.head? == some ':'
    meaning := ((String.ofList (rest.drop 1)).splitOn ",").map fun code =>
      Char.ofNat (Text.hexNumber code.toList) }

/-- Every name. -/
def all : List Named :=
  (Names.parts.flatMap Unicode.Ranges.wordsOf).map Named.ofWord

/-- The text begins with the name, and with a semicolon after it where one is due. -/
def Named.opens (named : Named) (text : List Char) : Bool :=
  named.name.isPrefixOf text &&
    (named.mayBeOpen || (text.drop named.name.length).head? == some ';')

/-- The longest name that the text begins with. -/
def longest? (text : List Char) : Option Named :=
  all.foldl (fun best named =>
    if named.opens text && (best.map (·.name.length)).getD 0 < named.name.length then some named
    else best) none

/-- The code points that the numbers from 128 to 159 stand for. -/
def controlMeanings : List Nat :=
  [0x20AC, 0x81, 0x201A, 0x192, 0x201E, 0x2026, 0x2020, 0x2021, 0x2C6, 0x2030, 0x160, 0x2039,
    0x152, 0x8D, 0x17D, 0x8F, 0x90, 0x2018, 0x2019, 0x201C, 0x201D, 0x2022, 0x2013, 0x2014,
    0x2DC, 0x2122, 0x161, 0x203A, 0x153, 0x9D, 0x17E, 0x178]

/-- What stands for a character that cannot be had. -/
def replacement : Char :=
  Char.ofNat 0xFFFD

/-- The character that a number refers to. -/
def charOfNumber (number : Nat) : Char :=
  if number == 0 || !number.isValidChar then replacement
  else if 0x80 ≤ number ∧ number < 0xA0 then
    Char.ofNat (controlMeanings.getD (number - 0x80) number)
  else Char.ofNat number

/-- The reference by a number that stands in the given digits after an opening, and its length
with a semicolon that follows. -/
def numeric? (number : List Char → Nat) (opening : Nat) (digits rest : List Char) :
    Option (List Char × Nat) :=
  if digits.isEmpty then none
  else
    let close := if rest.head? == some ';' then 1 else 0
    some ([charOfNumber (number digits)], opening + digits.length + close)

/-- A reference by a name.  In the value of an attribute a name without its semicolon is none
when an equals sign, a letter or a digit follows. -/
def named? (inAttribute : Bool) (text : List Char) : Option (List Char × Nat) := do
  let named ← longest? text
  let next := (text.drop named.name.length).head?
  if next == some ';' then some (named.meaning, named.name.length + 1)
  else if inAttribute && next.any (fun c => c == '=' || c.isAlphanum) then none
  else some (named.meaning, named.name.length)

/-- The characters that the reference opened by an ampersand stands for, with the number of
characters that it takes after the ampersand. -/
def read? (inAttribute : Bool) (text : List Char) : Option (List Char × Nat) :=
  match text with
  | '#' :: c :: rest =>
      if c == 'x' || c == 'X' then
        let digits := rest.takeWhile fun d => (Text.hexDigit? d).isSome
        numeric? Text.hexNumber 2 digits (rest.drop digits.length)
      else
        let digits := (c :: rest).takeWhile Char.isDigit
        numeric? Text.decimalNumber 1 digits ((c :: rest).drop digits.length)
  | _ => named? inAttribute text

/-- A piece of a text: a reference, or a character that stands for itself. -/
structure Piece where
  /-- The characters that the piece stands for. -/
  meaning : List Char
  /-- The piece is a reference that lacks its semicolon. -/
  isOpen : Bool := false

/-- The pieces of a text, after skipping some characters. -/
def piecesAfter (inAttribute : Bool) : Nat → List Char → List Piece
  | _, [] => []
  | skipped + 1, _ :: rest => piecesAfter inAttribute skipped rest
  | 0, c :: rest =>
      match if c == '&' then read? inAttribute rest else none with
      | some (meaning, length) =>
          { meaning, isOpen := (rest.take length).getLast? != some ';' } ::
            piecesAfter inAttribute length rest
      | none => { meaning := [c] } :: piecesAfter inAttribute 0 rest

/-- The pieces of a text. -/
def pieces (inAttribute : Bool) (text : List Char) : List Piece :=
  piecesAfter inAttribute 0 text

/-- The text with its references resolved. -/
def decode (inAttribute : Bool) (text : List Char) : List Char :=
  (pieces inAttribute text).flatMap Piece.meaning

end Gleaner.Html.Reference
