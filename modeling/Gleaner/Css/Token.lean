/-!
# Tokens of selectors

A list of selectors is read as a sequence of tokens; brackets group tokens into blocks.
-/

namespace Gleaner.Css

/-- The kinds of brackets. -/
inductive Bracket where
  | round
  | square
  | curly
  deriving DecidableEq, Repr

/-- How the value of an attribute is compared. -/
inductive Operator where
  /-- It is the text. -/
  | equals
  /-- One of its words is the text. -/
  | hasWord
  /-- It is the text, perhaps followed by a hyphen and more. -/
  | hasStem
  /-- It starts with the text. -/
  | startsWith
  /-- It ends with the text. -/
  | endsWith
  /-- The text occurs in it. -/
  | contains
  deriving DecidableEq, Repr

/-- A token; comments make none. -/
inductive Token where
  /-- White space. -/
  | space
  /-- A name. -/
  | ident (name : String)
  /-- A name with the opening bracket after it. -/
  | function (name : String)
  /-- A number sign with the name after it, which may or may not begin as names do. -/
  | hash (name : String) (isIdent : Bool)
  /-- A quoted text. -/
  | quoted (content : String)
  /-- A number, with its value if it is written as an integer. -/
  | number (isSigned : Bool) (value? : Option Int)
  /-- A number with the unit after it. -/
  | dimension (value? : Option Int) (unit : String)
  /-- A comparison other than the equals sign. -/
  | operator (operator : Operator)
  /-- A colon. -/
  | colon
  /-- A comma. -/
  | comma
  /-- An opening bracket. -/
  | opening (bracket : Bracket)
  /-- A closing bracket. -/
  | closing (bracket : Bracket)
  /-- Another character. -/
  | delim (c : Char)
  /-- A quoted text or an address that is broken off. -/
  | broken
  /-- A token that has no place in selectors. -/
  | other
  deriving DecidableEq, Repr

/-- What opens a block. -/
inductive Opener where
  /-- A bracket. -/
  | bracket (kind : Bracket)
  /-- A name with a round bracket. -/
  | function (name : String)
  deriving DecidableEq, Repr

/-- The bracket that closes the block. -/
def Opener.closer : Opener → Bracket
  | .bracket kind => kind
  | .function _ => .round

/-- A token outside of blocks, or a block. -/
inductive Part where
  /-- A token. -/
  | token (token : Token)
  /-- What stands between two brackets. -/
  | block (opener : Opener) (parts : List Part)
  deriving Repr

namespace Part

/-- A block that is open: what opens it, and the parts before it, last first. -/
structure Open where
  /-- What opens the block. -/
  opener : Opener
  /-- The parts before it, last first. -/
  before : List Part

/-- The parts with every open block closed. -/
def closeAll : List Open → List Part → List Part
  | [], found => found.reverse
  | outer :: rest, found => closeAll rest (block outer.opener found.reverse :: outer.before)

/-- The parts that the tokens make, given the open blocks, innermost first, and the parts found in
the innermost one, last first.  A closing bracket that closes no block is a part of its own, and
the end closes all blocks. -/
def groupWithin : List Open → List Part → List Token → List Part
  | blocks, found, [] => closeAll blocks found
  | blocks, found, .opening bracket :: rest =>
      groupWithin (⟨.bracket bracket, found⟩ :: blocks) [] rest
  | blocks, found, .function name :: rest =>
      groupWithin (⟨.function name, found⟩ :: blocks) [] rest
  | [], found, next :: rest => groupWithin [] (token next :: found) rest
  | innermost :: blocks, found, next :: rest =>
      if next = .closing innermost.opener.closer then
        groupWithin blocks (block innermost.opener found.reverse :: innermost.before) rest
      else groupWithin (innermost :: blocks) (token next :: found) rest

/-- The parts that the tokens make. -/
def group (tokens : List Token) : List Part :=
  groupWithin [] [] tokens

mutual

/-- No token in the part is broken or closes a block that is not open. -/
def isSound : Part → Bool
  | token .broken => false
  | token (.closing _) => false
  | token _ => true
  | block _ parts => areSound parts

/-- No token in the parts is broken or closes a block that is not open. -/
def areSound : List Part → Bool
  | [] => true
  | part :: rest => isSound part && areSound rest

end

/-- The part is white space. -/
def isSpace : Part → Bool
  | token .space => true
  | _ => false

/-- The part is a comma. -/
def isComma : Part → Bool
  | token .comma => true
  | _ => false

/-- The parts without leading white space. -/
def skipSpace (parts : List Part) : List Part :=
  parts.dropWhile isSpace

end Part

end Gleaner.Css
