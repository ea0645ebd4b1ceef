import Gleaner.Css.Token
import Gleaner.Text.Digits

/-!
# Reading tokens

Reads the tokens of a text.  Comments, quoted texts and blocks that the text ends within are
closed there.
-/

namespace Gleaner.Css

/-! ## Characters -/

/-- What stands for a character that cannot be had. -/
def replacement : Char :=
  Char.ofNat 0xFFFD

/-- The character ends a line. -/
def isLineEnd (c : Char) : Bool :=
  c == '\n' || c == '\r' || c == '\x0c'

/-- The character is white space. -/
def isSpace (c : Char) : Bool :=
  c == ' ' || c == '\t' || isLineEnd c

/-- The character may begin a name. -/
def isNameStart (c : Char) : Bool :=
  c.isAlpha || c == '_' || c == '\x00' || 0x80 ≤ c.toNat

/-- The character may stand in a name. -/
def isNameChar (c : Char) : Bool :=
  isNameStart c || c.isDigit || c == '-'

/-- A line end starts the text. -/
def startsLineEnd (text : List Char) : Bool :=
  text.head?.any isLineEnd

/-- Number of characters of the line end at the start of the text. -/
def lineEndLength : List Char → Nat
  | '\r' :: '\n' :: _ => 2
  | _ => 1

/-- A digit starts the text. -/
def startsDigit (text : List Char) : Bool :=
  text.head?.any Char.isDigit

/-- A number without sign starts the text. -/
def startsUnsigned : List Char → Bool
  | '.' :: rest => startsDigit rest
  | text => startsDigit text

/-- A name starts the text. -/
def startsName : List Char → Bool
  | [] => false
  | '-' :: '-' :: _ => true
  | '-' :: '\\' :: _ => true
  | '-' :: c :: _ => isNameStart c
  | '\\' :: rest => !startsLineEnd rest
  | c :: _ => isNameStart c

/-! ## Names and quoted texts -/

/-- The character that stands for the code point of a number. -/
def charOfCode (code : Nat) : Char :=
  if code != 0 && code.isValidChar then Char.ofNat code else replacement

/-- The character that is escaped after a backslash, and the number of characters it takes. -/
def escaped : List Char → Char × Nat
  | [] => (replacement, 0)
  | c :: rest =>
      let digits := ((c :: rest).takeWhile fun d => (Text.hexDigit? d).isSome).take 6
      if digits.isEmpty then (if c == '\x00' then replacement else c, 1)
      else
        let after := (c :: rest).drop digits.length
        let space := if after.head?.any isSpace then lineEndLength after else 0
        (charOfCode (Text.hexNumber digits), digits.length + space)

/-- The name at the start of the text and the text after it, once some characters are skipped. -/
def splitName : Nat → List Char → List Char × List Char
  | _, [] => ([], [])
  | skipped + 1, _ :: rest => splitName skipped rest
  | 0, c :: rest =>
      if c == '\\' && !startsLineEnd rest then
        let (meant, length) := escaped rest
        let (name, after) := splitName length rest
        (meant :: name, after)
      else if isNameChar c then
        let (name, after) := splitName 0 rest
        ((if c == '\x00' then replacement else c) :: name, after)
      else ([], c :: rest)

/-- The name at the start of the text and the text after it. -/
def readName (text : List Char) : String × List Char :=
  let (name, after) := splitName 0 text
  (String.ofList name, after)

/-- The text up to a quote and the text after it, once some characters are skipped; a line end
breaks it off. -/
def splitQuoted (quote : Char) : Nat → List Char → Option (List Char) × List Char
  | _, [] => (some [], [])
  | skipped + 1, _ :: rest => splitQuoted quote skipped rest
  | 0, c :: rest =>
      let continued (first : List Char) (skipped : Nat) :=
        let (content, after) := splitQuoted quote skipped rest
        (content.map (first ++ ·), after)
      if c == quote then (some [], rest)
      else if isLineEnd c then (none, c :: rest)
      else if c == '\\' then
        if rest.isEmpty then (some [], [])
        else if startsLineEnd rest then continued [] (lineEndLength rest)
        else
          let (meant, length) := escaped rest
          continued [meant] length
      else continued [if c == '\x00' then replacement else c] 0

/-- The token of a quoted text, and the text after it. -/
def readQuoted (quote : Char) (text : List Char) : Token × List Char :=
  match splitQuoted quote 0 text with
  | (some content, after) => (.quoted (String.ofList content), after)
  | (none, after) => (.broken, after)

/-! ## Addresses -/

/-- The text up to a round bracket that is not escaped, and the text after it. -/
def splitAddress : List Char → List Char × List Char
  | [] => ([], [])
  | '\\' :: c :: rest =>
      let (content, after) := splitAddress rest
      ('\\' :: c :: content, after)
  | ')' :: rest => ([], rest)
  | c :: rest =>
      let (content, after) := splitAddress rest
      (c :: content, after)

/-- The character has no place in an address that is not quoted. -/
def breaksAddress (c : Char) : Bool :=
  isSpace c || c == '"' || c == '\'' || c == '(' || c == '\x7f' || (c.toNat < 0x20 && c != '\x00')

/-- A name that a round bracket follows, and the text after both. -/
def readFunction (name : String) (text : List Char) : Token × List Char :=
  let content := text.dropWhile isSpace
  let isQuoted := content.head?.any fun c => c == '"' || c == '\''
  if name.toLower == "url" && !isQuoted then
    let (address, after) := splitAddress content
    let address := (address.reverse.dropWhile isSpace).reverse
    (if address.any breaksAddress then .broken else .other, after)
  else (.function name, text)

/-- A name, or a name that a round bracket follows. -/
def readIdent (text : List Char) : Token × List Char :=
  let (name, after) := readName text
  match after with
  | '(' :: rest => readFunction name rest
  | _ => (.ident name, after)

/-! ## Numbers -/

/-- The value as a machine integer of 32 bits, the nearest one if it is none. -/
def clamped (value : Int) : Int :=
  max (-2147483648) (min 2147483647 value)

/-- The text after the fraction at its start, if there is one. -/
def fraction? : List Char → Option (List Char)
  | '.' :: rest => if startsDigit rest then some (rest.dropWhile Char.isDigit) else none
  | _ => none

/-- The text after the exponent at its start, if there is one. -/
def exponent? : List Char → Option (List Char)
  | c :: rest =>
      if c == 'e' || c == 'E' then
        let digits :=
          match rest with
          | '+' :: digits => digits
          | '-' :: digits => digits
          | digits => digits
        if startsDigit digits then some (digits.dropWhile Char.isDigit) else none
      else none
  | [] => none

/-- A number after its sign, and the text after it. -/
def readUnsigned (isSigned isNegative : Bool) (text : List Char) : Token × List Char :=
  let digits := text.takeWhile Char.isDigit
  let whole := text.drop digits.length
  let afterFraction := (fraction? whole).getD whole
  let after := (exponent? afterFraction).getD afterFraction
  let isInteger := (fraction? whole).isNone && (exponent? afterFraction).isNone
  let size : Int := Text.decimalNumber digits
  let value? := if isInteger then some (clamped (if isNegative then -size else size)) else none
  match after with
  | '%' :: rest => (.other, rest)
  | _ =>
      if startsName after then
        let (unit, after) := readName after
        (.dimension value? unit, after)
      else (.number isSigned value?, after)

/-! ## Tokens -/

/-- The text after a comment. -/
def skipComment : List Char → List Char
  | [] => []
  | '*' :: '/' :: rest => rest
  | _ :: rest => skipComment rest

/-- A hash, or a number sign alone. -/
def readHash (text : List Char) : Token × List Char :=
  if startsName text then
    let (name, after) := readName text
    (.hash name true, after)
  else if text.head?.any fun c => c.isDigit || c == '-' then
    let (name, after) := readName text
    (.hash name false, after)
  else (.delim '#', text)

/-- What begins with a sign. -/
def readSigned (sign : Char) (text : List Char) : Token × List Char :=
  if startsUnsigned text then readUnsigned true (sign == '-') text
  else if sign == '-' && "->".toList.isPrefixOf text then (.other, text.drop 2)
  else if sign == '-' && startsName (sign :: text) then readIdent (sign :: text)
  else (.delim sign, text)

/-- What begins with an at sign. -/
def readAt (text : List Char) : Token × List Char :=
  if startsName text then (.other, (readName text).2) else (.delim '@', text)

/-- The comparison that a character makes together with an equals sign. -/
def operator? : Char → Option Operator
  | '~' => some .hasWord
  | '|' => some .hasStem
  | '^' => some .startsWith
  | '$' => some .endsWith
  | '*' => some .contains
  | _ => none

/-- The token of a character that stands for itself. -/
def single? : Char → Option Token
  | ':' => some .colon
  | ',' => some .comma
  | ';' => some .other
  | '(' => some (.opening .round)
  | ')' => some (.closing .round)
  | '[' => some (.opening .square)
  | ']' => some (.closing .square)
  | '\x7b' => some (.opening .curly)
  | '\x7d' => some (.closing .curly)
  | _ => none

/-- What begins with a character that has no part of its own in names and numbers. -/
def readSymbol (c : Char) (rest : List Char) : Token × List Char :=
  match single? c with
  | some token => (token, rest)
  | none =>
      match operator? c, rest with
      | some operator, '=' :: after => (.operator operator, after)
      | _, _ =>
          if c == '<' && "!--".toList.isPrefixOf rest then (.other, rest.drop 3)
          else (.delim c, rest)

/-- The token at the start of a text, whose first character is given apart, and the text after
it. -/
def readToken (c : Char) (rest : List Char) : Token × List Char :=
  if isSpace c then (.space, rest.dropWhile isSpace)
  else if c == '"' || c == '\'' then readQuoted c rest
  else if c == '#' then readHash rest
  else if c == '+' || c == '-' then readSigned c rest
  else if c == '@' then readAt rest
  else if startsUnsigned (c :: rest) then readUnsigned false false (c :: rest)
  else if startsName (c :: rest) then readIdent (c :: rest)
  else readSymbol c rest

/-- Reads tokens.  Each round takes a character at least, so that the length of the text bounds
the rounds. -/
def readTokens : Nat → List Char → List Token
  | 0, _ => []
  | rounds + 1, text =>
      match text with
      | [] => []
      | '/' :: '*' :: rest => readTokens rounds (skipComment rest)
      | c :: rest =>
          let (token, after) := readToken c rest
          token :: readTokens rounds after

/-- The tokens of a text. -/
def tokensOf (text : List Char) : List Token :=
  readTokens text.length text

end Gleaner.Css
