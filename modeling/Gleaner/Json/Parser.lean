import Gleaner.Json.Basic
import Gleaner.Number.Literal

/-!
# Reading JSON

Reads JSON text.  Containers may be nested up to 127 deep, a string may not escape half of a
surrogate pair, and a number must be finite.
-/

namespace Gleaner.Json

/-- Why a text is no JSON. -/
inductive SyntaxError where
  /-- The text ends within a value. -/
  | unexpectedEnd
  /-- A character cannot stand where it does. -/
  | unexpectedCharacter
  /-- A string holds a control character or a malformed escape. -/
  | badString
  /-- A number is malformed. -/
  | badNumber
  /-- A number is too large. -/
  | numberOutOfRange
  /-- Containers are nested too deeply. -/
  | tooDeep
  /-- The text goes on after the value. -/
  | trailingText
  deriving DecidableEq, Repr

/-- What is wrong with the text, in words. -/
def SyntaxError.message : SyntaxError → String
  | unexpectedEnd => "unexpected end of text"
  | unexpectedCharacter => "unexpected character"
  | badString => "malformed string"
  | badNumber => "malformed number"
  | numberOutOfRange => "number out of range"
  | tooDeep => "too many nested containers"
  | trailingText => "trailing characters"

/-- The characters that may stand between the parts of a value. -/
def isSpace (c : Char) : Bool :=
  c == ' ' || c == '\n' || c == '\t' || c == '\r'

/-- The text without the space at its start. -/
def skipSpace (text : List Char) : List Char :=
  text.dropWhile isSpace

/-- The unit that four hexadecimal digits spell. -/
def hexUnit? (a b c d : Char) : Option Nat := do
  let a ← Text.hexDigit? a
  let b ← Text.hexDigit? b
  let c ← Text.hexDigit? c
  let d ← Text.hexDigit? d
  return ((a * 16 + b) * 16 + c) * 16 + d

/-- The character that a surrogate pair stands for. -/
def pairChar (high low : Nat) : Char :=
  Char.ofNat (0x10000 + (high - 0xD800) * 0x400 + (low - 0xDC00))

/-- The character of an escape that has one letter. -/
def letterEscape? : Char → Option Char
  | '"' => some '"'
  | '\\' => some '\\'
  | '/' => some '/'
  | 'b' => some '\x08'
  | 'f' => some '\x0c'
  | 'n' => some '\n'
  | 'r' => some '\r'
  | 't' => some '\t'
  | _ => none

/-- The characters of a string up to its closing quotation mark. -/
def readString : List Char → Except SyntaxError (List Char × List Char)
  | [] => .error .unexpectedEnd
  | '"' :: rest => .ok ([], rest)
  | '\\' :: 'u' :: a :: b :: c :: d :: '\\' :: 'u' :: e :: f :: g :: h :: rest =>
      match hexUnit? a b c d with
      | none => .error .badString
      | some unit =>
          if 0xDC00 ≤ unit ∧ unit ≤ 0xDFFF then .error .badString
          else if 0xD800 ≤ unit ∧ unit ≤ 0xDBFF then
            match hexUnit? e f g h with
            | none => .error .badString
            | some low =>
                if 0xDC00 ≤ low ∧ low ≤ 0xDFFF then push (pairChar unit low) (readString rest)
                else .error .badString
          else
            push (Char.ofNat unit)
              (readString ('\\' :: 'u' :: e :: f :: g :: h :: rest))
  | '\\' :: 'u' :: a :: b :: c :: d :: rest =>
      match hexUnit? a b c d with
      | none => .error .badString
      | some unit =>
          if 0xD800 ≤ unit ∧ unit ≤ 0xDFFF then .error .badString
          else push (Char.ofNat unit) (readString rest)
  | '\\' :: c :: rest =>
      match letterEscape? c with
      | none => .error .badString
      | some character => push character (readString rest)
  | c :: rest =>
      if c == '\\' || c.toNat < 0x20 then .error .badString else push c (readString rest)
where
  /-- The reading with one more character in front. -/
  push (c : Char) (reading : Except SyntaxError (List Char × List Char)) :
      Except SyntaxError (List Char × List Char) :=
    reading.map fun (text, rest) => (c :: text, rest)

/-- The fraction at the start of a text, if there is one. -/
def readFraction : List Char → Except SyntaxError (Option (List Char) × List Char)
  | '.' :: rest =>
      match Literal.takeDigits rest with
      | ([], _) => .error .badNumber
      | (digits, rest) => .ok (some digits, rest)
  | text => .ok (none, text)

/-- The exponent at the start of a text, if there is one. -/
def readExponent : List Char → Except SyntaxError (Option (Bool × List Char) × List Char)
  | [] => .ok (none, [])
  | c :: rest =>
      if c == 'e' || c == 'E' then
        match Literal.takeExponent? rest with
        | some (negative, digits, rest) => .ok (some (negative, digits), rest)
        | none => .error .badNumber
      else
        .ok (none, c :: rest)

/-- The number at the start of a text. -/
def readNumber (text : List Char) : Except SyntaxError (Json × List Char) := do
  let (negative, text) := match text with
    | '-' :: rest => (true, rest)
    | _ => (false, text)
  let (whole, rest) := Literal.takeDigits text
  match whole with
  | [] => throw .badNumber
  | '0' :: _ :: _ => throw .badNumber
  | _ =>
      let (fraction, rest) ← readFraction rest
      let (exponent, rest) ← readExponent rest
      match Literal.value? { negative, whole, fraction, exponent } with
      | some value => return (number value, rest)
      | none => throw .numberOutOfRange

/-- The rest of the text after a word that it starts with. -/
def readWord (word : List Char) (value : Json) (text : List Char) :
    Except SyntaxError (Json × List Char) :=
  if word.isPrefixOf text then .ok (value, text.drop word.length)
  else .error .unexpectedCharacter

mutual

/-- The value at the start of a text; `depth` more containers may be opened around others. -/
def readValue : Nat → Nat → List Char → Except SyntaxError (Json × List Char)
  | 0, _, _ => .error .tooDeep
  | fuel + 1, depth, text =>
      match skipSpace text with
      | [] => .error .unexpectedEnd
      | '"' :: rest => (readString rest).map fun (text, rest) => (string (String.ofList text), rest)
      | '[' :: rest =>
          if depth ≤ 1 then .error .tooDeep
          else match skipSpace rest with
            | ']' :: rest => .ok (array [], rest)
            | rest =>
                (readItems fuel (depth - 1) rest).map fun (items, rest) => (array items, rest)
      | '\x7b' :: rest =>
          if depth ≤ 1 then .error .tooDeep
          else match skipSpace rest with
            | '\x7d' :: rest => .ok (object [], rest)
            | rest =>
                (readMembers fuel (depth - 1) rest).map
                  fun (members, rest) => (object members, rest)
      | c :: rest =>
          if c == '-' || c.isDigit then readNumber (c :: rest)
          else if c == 'n' then readWord ['n', 'u', 'l', 'l'] null (c :: rest)
          else if c == 't' then readWord ['t', 'r', 'u', 'e'] (bool true) (c :: rest)
          else if c == 'f' then readWord ['f', 'a', 'l', 's', 'e'] (bool false) (c :: rest)
          else .error .unexpectedCharacter

/-- The elements of an array up to its closing bracket. -/
def readItems : Nat → Nat → List Char → Except SyntaxError (List Json × List Char)
  | 0, _, _ => .error .tooDeep
  | fuel + 1, depth, text => do
      let (item, rest) ← readValue fuel depth text
      match skipSpace rest with
      | ',' :: rest => do
          let (items, rest) ← readItems fuel depth rest
          return (item :: items, rest)
      | ']' :: rest => return ([item], rest)
      | [] => throw .unexpectedEnd
      | _ => throw .unexpectedCharacter

/-- The members of an object up to its closing brace, as they are written. -/
def readMembers : Nat → Nat → List Char →
    Except SyntaxError (List (String × Json) × List Char)
  | 0, _, _ => .error .tooDeep
  | fuel + 1, depth, text => do
      let (name, rest) ← readName (skipSpace text)
      let (value, rest) ← readValue fuel depth rest
      match skipSpace rest with
      | ',' :: rest => do
          let (members, rest) ← readMembers fuel depth rest
          return ((name, value) :: members, rest)
      | '\x7d' :: rest => return ([(name, value)], rest)
      | [] => throw .unexpectedEnd
      | _ => throw .unexpectedCharacter
where
  /-- The name of a member, with the colon after it. -/
  readName : List Char → Except SyntaxError (String × List Char)
    | '"' :: rest => do
        let (name, rest) ← readString rest
        match skipSpace rest with
        | ':' :: rest => return (String.ofList name, rest)
        | [] => throw .unexpectedEnd
        | _ => throw .unexpectedCharacter
    | [] => .error .unexpectedEnd
    | _ => .error .unexpectedCharacter

end

/-- One more than the number of containers that may be nested. -/
def depthLimit : Nat := 128

/-- The value that a text spells; objects hold their members as they are written, names that
are repeated included. -/
def parseVerbatim (text : String) : Except SyntaxError Json := do
  let characters := text.toList
  let (value, rest) ← readValue (2 * characters.length + 2) depthLimit characters
  if (skipSpace rest).isEmpty then return value else throw .trailingText

/-- The value that a text stands for. -/
def parse (text : String) : Except SyntaxError Json :=
  (parseVerbatim text).map Json.distinct

end Gleaner.Json
