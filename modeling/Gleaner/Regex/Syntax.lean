import Gleaner.Regex.CodeSet

/-!
# Regular expressions

The expressions that patterns stand for, with every flag already applied, and the causes for
which a pattern is refused.
-/

namespace Gleaner.Regex

/-- A condition on the place between two characters. -/
inductive Look where
  /-- The start of the text. -/
  | textStart
  /-- The end of the text. -/
  | textEnd
  /-- The start of a line; lines end with a line feed. -/
  | lineStart
  /-- The end of a line; lines end with a line feed. -/
  | lineEnd
  /-- The start of a line; lines end with a carriage return, a line feed, or both. -/
  | anyLineStart
  /-- The end of a line; lines end with a carriage return, a line feed, or both. -/
  | anyLineEnd
  /-- A word character on exactly one side. -/
  | boundary (isWord : CodeSet)
  /-- Word characters on both sides or on neither. -/
  | noBoundary (isWord : CodeSet)
  /-- A word character after, none before. -/
  | wordStart (isWord : CodeSet)
  /-- A word character before, none after. -/
  | wordEnd (isWord : CodeSet)
  /-- No word character before. -/
  | wordStartHalf (isWord : CodeSet)
  /-- No word character after. -/
  | wordEndHalf (isWord : CodeSet)

namespace Look

/-- The character is there and belongs to the set. -/
private def inside (isWord : CodeSet) : Option Char → Bool
  | none => false
  | some c => isWord c.toNat

/-- The condition holds between the two characters; `none` stands for an end of the text. -/
def holds (before after : Option Char) : Look → Bool
  | textStart => before.isNone
  | textEnd => after.isNone
  | lineStart => before.isNone || before == some '\n'
  | lineEnd => after.isNone || after == some '\n'
  | anyLineStart =>
      before.isNone || before == some '\n' || (before == some '\r' && after != some '\n')
  | anyLineEnd =>
      after.isNone || after == some '\r' || (after == some '\n' && before != some '\r')
  | boundary isWord => inside isWord before != inside isWord after
  | noBoundary isWord => inside isWord before == inside isWord after
  | wordStart isWord => ! inside isWord before && inside isWord after
  | wordEnd isWord => inside isWord before && ! inside isWord after
  | wordStartHalf isWord => ! inside isWord before
  | wordEndHalf isWord => ! inside isWord after

end Look

/-- What a group is for. -/
inductive GroupRole where
  /-- It only holds its parts together. -/
  | plain
  /-- It is the first one that captures, and its text is remembered. -/
  | first
  /-- It captures after the first one, and nobody asks for its text. -/
  | later
  deriving DecidableEq, Repr

/-- A regular expression. -/
inductive Expr where
  /-- Matches the empty text. -/
  | empty
  /-- Matches one character of the set, whose automata take no more bytes than the bound. -/
  | set (members : CodeSet) (bound : Nat)
  /-- Matches the empty text where the condition holds. -/
  | look (condition : Look)
  /-- Matches what the body matches. -/
  | group (role : GroupRole) (body : Expr)
  /-- Matches the body from `least` up to `most` times, as often as possible if `greedy`. -/
  | repeated (least : Nat) (most : Option Nat) (greedy : Bool) (body : Expr)
  /-- Matches one expression after the other. -/
  | seq (left right : Expr)
  /-- Matches either expression, preferably the left one. -/
  | alt (left right : Expr)

namespace Expr

/-- The expression can match the empty text. -/
def nullable : Expr → Bool
  | empty => true
  | set _ _ => false
  | look _ => true
  | group _ body => body.nullable
  | repeated least _ _ body => least == 0 || body.nullable
  | seq left right => left.nullable && right.nullable
  | alt left right => left.nullable || right.nullable

/-- The expression matches no text but the empty one. -/
def onlyEmpty : Expr → Bool
  | empty => true
  | set _ _ => false
  | look _ => true
  | group _ body => body.onlyEmpty
  | repeated _ most _ body => most == some 0 || body.onlyEmpty
  | seq left right => left.onlyEmpty && right.onlyEmpty
  | alt left right => left.onlyEmpty && right.onlyEmpty

/-- The bounds of a repetition of the body as far as they matter: once is enough for a body that
matches only the empty text. -/
def effectiveBounds (least : Nat) (most : Option Nat) (body : Expr) : Nat × Option Nat :=
  if body.onlyEmpty then (min least 1, some (min (most.getD 1) 1)) else (least, most)

/-- The expressions one after the other. -/
def sequence : List Expr → Expr
  | [] => empty
  | [only] => only
  | first :: rest => seq first (sequence rest)

/-- Any of the expressions, earlier ones preferred. -/
def choice : List Expr → Expr
  | [] => empty
  | [only] => only
  | first :: rest => alt first (choice rest)

end Expr

/-- Why a pattern is refused. -/
inductive SyntaxError where
  /-- A repetition operator has nothing to repeat. -/
  | nothingToRepeat
  /-- A counted repetition is not closed, lacks its count, or has its bounds in the wrong order. -/
  | malformedCount
  /-- A group is opened and never closed. -/
  | unclosedGroup
  /-- A parenthesis closes no group. -/
  | unopenedGroup
  /-- A group's name is empty, unfinished, malformed or used twice. -/
  | badGroupName
  /-- A flag is unknown, repeated or dangling. -/
  | badFlags
  /-- A group looks ahead or behind. -/
  | lookAround
  /-- A group's text is referred to by number. -/
  | backreference
  /-- A bracketed class is never closed. -/
  | unclosedClass
  /-- A range in a class has an end that is no character, or its ends in the wrong order. -/
  | badRange
  /-- A class holds an escape that stands for no character or set. -/
  | badClassEscape
  /-- An escape is unfinished or unknown. -/
  | badEscape
  /-- A property of characters is unknown. -/
  | unknownProperty
  /-- Without Unicode the pattern could match part of a character. -/
  | partialCharacter
  /-- Expressions are nested too deeply. -/
  | tooDeep
  /-- The automaton would take too much memory. -/
  | tooLarge
  deriving DecidableEq, Repr

/-- What is wrong with the pattern, in words. -/
def SyntaxError.message : SyntaxError → String
  | nothingToRepeat => "repetition operator without an expression"
  | malformedCount => "malformed counted repetition"
  | unclosedGroup => "unclosed group"
  | unopenedGroup => "unopened group"
  | badGroupName => "malformed or repeated group name"
  | badFlags => "malformed flags"
  | lookAround => "look-around is not supported"
  | backreference => "back-references are not supported"
  | unclosedClass => "unclosed character class"
  | badRange => "invalid character class range"
  | badClassEscape => "invalid escape in a character class"
  | badEscape => "unrecognized escape"
  | unknownProperty => "unknown property of characters"
  | partialCharacter => "pattern can match part of a character"
  | tooDeep => "expressions are nested too deeply"
  | tooLarge => "compiled pattern is too large"

end Gleaner.Regex
