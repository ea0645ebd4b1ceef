import Gleaner.Regex.Class
import Gleaner.Regex.Footprint

/-!
# Patterns as expressions

Reads a pattern into the expression that it stands for, or finds the cause for which it is
refused.  The reader keeps the groups that are still open on a stack.
-/

namespace Gleaner.Regex

/-- An expression that has been read, with its depth and whether an operator may repeat it. -/
structure Piece where
  /-- The expression. -/
  expr : Expr
  /-- How deeply groups, classes, repetitions, alternatives and sequences are nested in it. -/
  height : Nat
  /-- A repetition operator may follow it. -/
  repeatable : Bool := true

/-- What has been read between the parentheses of one group. -/
structure Level where
  /-- The finished alternatives, last one first. -/
  branches : List Piece := []
  /-- The pieces of the current alternative, last one first. -/
  pieces : List Piece := []

namespace Level

/-- The pieces one after the other. -/
def sequenceOf (pieces : List Piece) : Piece :=
  match pieces with
  | [only] => only
  | _ =>
      { expr := Expr.sequence (pieces.map (·.expr))
        height := (pieces.map (·.height)).foldl max 0 + if pieces.isEmpty then 0 else 1 }

/-- The level with its current alternative finished. -/
def endBranch (level : Level) : Level :=
  { branches := sequenceOf level.pieces.reverse :: level.branches, pieces := [] }

/-- What the level as a whole stands for. -/
def value (level : Level) : Piece :=
  match level.endBranch.branches with
  | [only] => only
  | branches =>
      { expr := Expr.choice (branches.reverse.map (·.expr))
        height := (branches.map (·.height)).foldl max 0 + 1 }

/-- The level with one more piece. -/
def push (level : Level) (piece : Piece) : Level :=
  { level with pieces := piece :: level.pieces }

end Level

/-- A group that is still open. -/
structure OpenGroup where
  /-- What stands around the group. -/
  outside : Level
  /-- What the group is for. -/
  role : GroupRole
  /-- The flags to go back to when the group is closed. -/
  flags : Flags

/-- How far the reading of a pattern has come. -/
structure Progress where
  /-- The flags in force. -/
  flags : Flags := {}
  /-- Number of groups that capture. -/
  groups : Nat := 0
  /-- The names of groups. -/
  names : List (List Char) := []
  /-- The groups that are open around the current level, innermost first. -/
  stack : List OpenGroup := []
  /-- The current level. -/
  level : Level := {}

namespace Progress

/-- One more piece on the current level. -/
def push (progress : Progress) (expr : Expr) (height : Nat) : Progress :=
  { progress with level := progress.level.push { expr, height } }

/-- Opens a group, which captures or not, under `flags` inside. -/
def openGroup (progress : Progress) (captures : Bool) (flags : Flags) : Progress :=
  { progress with
    groups := if captures then progress.groups + 1 else progress.groups
    stack :=
      { outside := progress.level
        role := if !captures then .plain else if progress.groups == 0 then .first else .later
        flags := progress.flags } :: progress.stack
    level := {}
    flags := flags }

/-- Closes the innermost group. -/
def closeGroup (progress : Progress) : Except SyntaxError Progress :=
  match progress.stack with
  | [] => .error .unopenedGroup
  | group :: stack =>
      let body := progress.level.value
      .ok { progress with
        stack := stack
        flags := group.flags
        level := group.outside.push
          { expr := .group group.role body.expr, height := body.height + 1 } }

/-- Repeats the last piece of the current level. -/
def repeatLast (progress : Progress) (least : Nat) (most : Option Nat) (lazy : Bool) :
    Except SyntaxError Progress :=
  match progress.level.pieces with
  | [] => .error .nothingToRepeat
  | piece :: pieces =>
      if piece.repeatable then
        let greedy := lazy == progress.flags.swapGreed
        .ok { progress with
          level := { progress.level with
            pieces :=
              { expr := .repeated least most greedy piece.expr
                height := piece.height + 1 } :: pieces } }
      else
        .error .nothingToRepeat

end Progress

/-- The flags of `(?flags)` or `(?flags:`, the character that ends them and the text after it.
`seen` holds the letters read so far and `on` whether no hyphen has been read yet. -/
def readFlags (flags : Flags) (seen : List Char) (on : Bool) :
    List Char → Except SyntaxError (Flags × List Char × Char × List Char)
  | [] => .error .badFlags
  | c :: rest =>
      if c == ':' || c == ')' then
        if seen.head? == some '-' then .error .badFlags else .ok (flags, seen, c, rest)
      else if seen.contains c then .error .badFlags
      else if c == '-' then readFlags flags ('-' :: seen) false rest
      else match flags.switch? on c with
        | some flags => readFlags flags (c :: seen) on rest
        | none => .error .badFlags

/-- The character may stand in the name of a group. -/
def isNameChar (first : Bool) (c : Char) : Bool :=
  c == '_' || Unicode.Binary.alphabetic.contains c.toNat ||
    (! first && (c == '.' || c == '[' || c == ']' ||
      Unicode.Ranges.unionContains
        [Unicode.Category.decimalNumber, Unicode.Category.letterNumber,
          Unicode.Category.otherNumber] c.toNat))

/-- The name of a group up to its closing angle bracket, and the text after that. -/
def groupName (names : List (List Char)) (text : List Char) :
    Except SyntaxError (List Char × List Char) :=
  let name := text.takeWhile (· != '>')
  match name, text.dropWhile (· != '>') with
  | first :: others, _ :: rest =>
      if isNameChar true first && others.all (isNameChar false) && ! names.contains name then
        .ok (name, rest)
      else
        .error .badGroupName
  | _, _ => .error .badGroupName

/-- What an opening parenthesis starts; `text` starts after it. -/
def readGroup (progress : Progress) (text : List Char) :
    Except SyntaxError (Progress × List Char) :=
  let text := progress.flags.skip text
  let named (rest : List Char) : Except SyntaxError (Progress × List Char) := do
    let (name, rest) ← groupName progress.names rest
    return ({ progress.openGroup true progress.flags with names := name :: progress.names }, rest)
  match text with
  | '?' :: '=' :: _ => .error .lookAround
  | '?' :: '!' :: _ => .error .lookAround
  | '?' :: '<' :: '=' :: _ => .error .lookAround
  | '?' :: '<' :: '!' :: _ => .error .lookAround
  | '?' :: 'P' :: '<' :: rest => named rest
  | '?' :: '<' :: rest => named rest
  | '?' :: rest => do
      let (flags, seen, last, rest) ← readFlags progress.flags [] true rest
      if last == ':' then return (progress.openGroup false flags, rest)
      else if seen.isEmpty then throw .nothingToRepeat
      else
        let mark : Piece := { expr := .empty, height := 0, repeatable := false }
        return ({ progress with flags, level := progress.level.push mark }, rest)
  | _ => .ok (progress.openGroup true progress.flags, text)

/-- A question mark at the start of the text makes the operator before it lazy. -/
def readLazy : List Char → Bool × List Char
  | '?' :: rest => (true, rest)
  | text => (false, text)

/-- The closing brace of a counted repetition, after which reading goes on. -/
def endCount (least : Nat) (most : Option Nat) :
    List Char → Except SyntaxError (Nat × Option Nat × List Char)
  | '\x7d' :: rest =>
      if most.all (least ≤ ·) then .ok (least, most, rest) else .error .malformedCount
  | _ => .error .malformedCount

/-- The upper bound of a counted repetition; `text` starts after the comma. -/
def readMost (flags : Flags) (least : Nat) (text : List Char) :
    Except SyntaxError (Nat × Option Nat × List Char) :=
  match flags.skip text with
  | '\x7d' :: rest => endCount least none ('\x7d' :: rest)
  | text => do
      match ← takeDecimal flags text with
      | (some most, rest) => endCount least (some most) rest
      | (none, _) => throw .malformedCount

/-- The bounds of a counted repetition, and the text after its closing brace. -/
def readCount (flags : Flags) (text : List Char) :
    Except SyntaxError (Nat × Option Nat × List Char) := do
  match ← takeDecimal flags (flags.skip text) with
  | (some least, ',' :: rest) => readMost flags least rest
  | (some least, rest) => endCount least (some least) rest
  | (none, _) => throw .malformedCount

/-- The expression of a character that stands for itself. -/
def charExpr (flags : Flags) (code : Nat) (byte : Bool) : Except SyntaxError Expr :=
  if ! flags.unicode && 0x80 ≤ code && (byte || flags.insensitive) then .error .partialCharacter
  else .ok (.set (flags.fold (CodeSet.single code)) (charBound flags.insensitive code))

/-- The expression of `.`: any character but the end of a line, or with `dotAll` any at all. -/
def dotExpr (flags : Flags) : Except SyntaxError Expr :=
  let excluded : CodeSet :=
    if flags.dotAll then CodeSet.none
    else if flags.anyLineEnd then (CodeSet.single 0xA).union (CodeSet.single 0xD)
    else CodeSet.single 0xA
  if flags.unicode then .ok (.set excluded.compl setBound) else .error .partialCharacter

/-- The expression of `^`. -/
def startExpr (flags : Flags) : Expr :=
  .look (if flags.multiLine then if flags.anyLineEnd then .anyLineStart else .lineStart
    else .textStart)

/-- The expression of `$`. -/
def endExpr (flags : Flags) : Expr :=
  .look (if flags.multiLine then if flags.anyLineEnd then .anyLineEnd else .lineEnd
    else .textEnd)

/-- The expression of an escape. -/
def atomExpr (flags : Flags) : Atom → Except SyntaxError Expr
  | .char code byte => charExpr flags code byte
  | .named members =>
      if flags.unicode || members.withinAscii then .ok (.set members setBound)
      else .error .partialCharacter
  | .look condition => .ok (.look condition)

/-- Reads the rest of a pattern; every turn takes at least one character. -/
def readPattern : Nat → Progress → List Char → Except SyntaxError Piece
  | 0, _, _ => .error .tooDeep
  | fuel + 1, progress, text =>
      let flags := progress.flags
      match flags.skip text with
      | [] => if progress.stack.isEmpty then .ok progress.level.value else .error .unclosedGroup
      | '(' :: rest => do
          let (progress, rest) ← readGroup progress rest
          readPattern fuel progress rest
      | ')' :: rest => do readPattern fuel (← progress.closeGroup) rest
      | '|' :: rest => readPattern fuel { progress with level := progress.level.endBranch } rest
      | '[' :: rest => do
          let (set, height, rest) ← bracketedClass flags rest
          readPattern fuel (progress.push (.set set setBound) height) rest
      | '?' :: rest => do
          let (lazy, rest) := readLazy rest
          readPattern fuel (← progress.repeatLast 0 (some 1) lazy) rest
      | '*' :: rest => do
          let (lazy, rest) := readLazy rest
          readPattern fuel (← progress.repeatLast 0 none lazy) rest
      | '+' :: rest => do
          let (lazy, rest) := readLazy rest
          readPattern fuel (← progress.repeatLast 1 none lazy) rest
      | '\x7b' :: rest => do
          let (least, most, rest) ← readCount flags rest
          let (lazy, rest) := readLazy (flags.skip rest)
          readPattern fuel (← progress.repeatLast least most lazy) rest
      | '\\' :: rest => do
          let (atom, rest) ← escapeAtom flags rest
          readPattern fuel (progress.push (← atomExpr flags atom) 0) rest
      | '.' :: rest => do readPattern fuel (progress.push (← dotExpr flags) 0) rest
      | '^' :: rest => readPattern fuel (progress.push (startExpr flags) 0) rest
      | '$' :: rest => readPattern fuel (progress.push (endExpr flags) 0) rest
      | c :: rest => do readPattern fuel (progress.push (← charExpr flags c.toNat false) 0) rest

/-- Greatest depth of an expression. -/
def maxHeight : Nat := 250

/-- The expression that a pattern stands for. -/
def Expr.parse (pattern : List Char) : Except SyntaxError Expr := do
  let piece ← readPattern (pattern.length + 1) {} pattern
  if maxHeight < piece.height then throw .tooDeep
  unless piece.expr.fits do throw .tooLarge
  return piece.expr

end Gleaner.Regex
