import Gleaner.Regex.Escape

/-!
# Bracketed classes

The sets that patterns write in square brackets: members, ranges, named and nested classes, and
the operators `&&`, `--` and `~~`, which all bind less tightly than juxtaposition and group to
the left.
-/

namespace Gleaner.Regex

/-- An operator between two sets of a class. -/
inductive ClassOp where
  | inter
  | diff
  | symmDiff

/-- The set that an operator makes of two sets. -/
def ClassOp.apply : ClassOp → CodeSet → CodeSet → CodeSet
  | inter => CodeSet.inter
  | diff => CodeSet.diff
  | symmDiff => CodeSet.symmDiff

/-- A set under construction, and how deeply classes are nested in it. -/
structure ClassPart where
  /-- Its members so far. -/
  members : CodeSet := CodeSet.none
  /-- Number of items read so far. -/
  items : Nat := 0
  /-- Depth of the deepest item. -/
  height : Nat := 0

namespace ClassPart

/-- The part with one more item. -/
def insert (part : ClassPart) (members : CodeSet) (height : Nat) : ClassPart where
  members := part.members.union members
  items := part.items + 1
  height := max part.height height

/-- Depth of the part as an operand. -/
def depth (part : ClassPart) : Nat :=
  if 2 ≤ part.items then part.height + 1 else part.height

end ClassPart

/-- A class that is still open. -/
structure OpenClass where
  /-- The class is a complement. -/
  negated : Bool
  /-- The operand to the left of the last operator, with its depth, and that operator. -/
  left : Option (CodeSet × Nat × ClassOp) := none
  /-- The operand being read. -/
  part : ClassPart := {}

namespace OpenClass

/-- The value of the operands read so far, and its depth. -/
def value (flags : Flags) (cls : OpenClass) : CodeSet × Nat :=
  match cls.left with
  | none => (cls.part.members, cls.part.depth)
  | some (left, height, op) =>
      (op.apply (flags.fold left) (flags.fold cls.part.members),
        max height cls.part.depth + 1)

/-- The class after an operator. -/
def operator (flags : Flags) (cls : OpenClass) (op : ClassOp) : OpenClass :=
  let (value, height) := cls.value flags
  { cls with left := some (value, height, op), part := {} }

/-- The class with one more item. -/
def insert (cls : OpenClass) (members : CodeSet) (height : Nat) : OpenClass :=
  { cls with part := cls.part.insert members height }

/-- The set of a finished class, and its depth. -/
def close (flags : Flags) (cls : OpenClass) : CodeSet × Nat :=
  let (value, height) := cls.value flags
  ((flags.fold value).negatedIf cls.negated, height + 1)

end OpenClass

/-- The hyphens at the start of a class, which stand for themselves. -/
def leadingHyphens (flags : Flags) : Nat → OpenClass → List Char → OpenClass × List Char
  | fuel + 1, cls, '-' :: rest =>
      leadingHyphens flags fuel (cls.insert (CodeSet.single '-'.toNat) 0) (flags.skip rest)
  | _, cls, text => (cls, text)

/-- Opens a class; `text` starts after the bracket.  A closing bracket that comes first stands
for itself. -/
def openClass (flags : Flags) (text : List Char) : OpenClass × List Char :=
  let text := flags.skip text
  let (negated, text) := match text with
    | '^' :: rest => (true, flags.skip rest)
    | _ => (false, text)
  let (cls, text) := leadingHyphens flags text.length { negated } text
  match cls.part.items, text with
  | 0, ']' :: rest => (cls.insert (CodeSet.single ']'.toNat) 0, flags.skip rest)
  | _, _ => (cls, text)

/-- The class named as in `[:alpha:]`; `text` starts after the first bracket. -/
def namedClass? (flags : Flags) (text : List Char) : Option (CodeSet × List Char) :=
  match text with
  | ':' :: rest =>
      let (negated, rest) := match rest with
        | '^' :: rest => (true, rest)
        | _ => (false, rest)
      let name := rest.takeWhile (· != ':')
      match rest.dropWhile (· != ':') with
      | ':' :: ']' :: rest =>
          (CodeSet.ofClassName? name).map fun set => ((flags.fold set).negatedIf negated, rest)
      | _ => none
  | _ => none

/-- The smallest part of a pattern that starts a member of a class. -/
def classAtom (flags : Flags) : List Char → Except SyntaxError (Atom × List Char)
  | [] => .error .unclosedClass
  | '\\' :: rest => escapeAtom flags rest
  | c :: rest => .ok (.char c.toNat false, rest)

/-- The code point of an end of a range or of a member; without Unicode only bytes qualify. -/
def memberCode (flags : Flags) : Atom → Except SyntaxError Nat
  | .char code byte =>
      if flags.unicode || byte || code < 0x80 then .ok code else .error .partialCharacter
  | _ => .error .badRange

/-- The next member or range of a class, and the text after it. -/
def classItem (flags : Flags) (text : List Char) : Except SyntaxError (CodeSet × List Char) := do
  let (first, rest) ← classAtom flags text
  let rest := flags.skip rest
  let isRange := match rest with
    | '-' :: after =>
        match flags.skip after with
        | ']' :: _ => false
        | '-' :: _ => false
        | _ => true
    | _ => false
  if isRange then
    let (last, rest) ← classAtom flags (flags.skip (rest.drop 1))
    let low ← memberCode flags first
    let high ← memberCode flags last
    if low ≤ high then return (CodeSet.range low high, rest) else throw .badRange
  else if rest.isEmpty then throw .unclosedClass
  else match first with
  | .char _ _ => return (CodeSet.single (← memberCode flags first), rest)
  | .named members => return (members, rest)
  | .look _ => throw .badClassEscape

/-- Reads on in the innermost of the open classes until the outermost one is closed; gives its
set, its depth and the text after it. -/
def readClass (flags : Flags) : Nat → OpenClass → List OpenClass → List Char →
    Except SyntaxError (CodeSet × Nat × List Char)
  | 0, _, _, _ => .error .unclosedClass
  | fuel + 1, cls, outer, text =>
      match flags.skip text with
      | [] => .error .unclosedClass
      | '[' :: rest =>
          match namedClass? flags rest with
          | some (set, rest) => readClass flags fuel (cls.insert set 0) outer rest
          | none =>
              let (inner, rest) := openClass flags rest
              readClass flags fuel inner (cls :: outer) rest
      | ']' :: rest =>
          let (set, height) := cls.close flags
          match outer with
          | [] => .ok (set, height, rest)
          | parent :: outer => readClass flags fuel (parent.insert set height) outer rest
      | '&' :: '&' :: rest => readClass flags fuel (cls.operator flags .inter) outer rest
      | '-' :: '-' :: rest => readClass flags fuel (cls.operator flags .diff) outer rest
      | '~' :: '~' :: rest => readClass flags fuel (cls.operator flags .symmDiff) outer rest
      | text => do
          let (set, rest) ← classItem flags text
          readClass flags fuel (cls.insert set 0) outer rest

/-- The bracketed class whose opening bracket has just been read: its set, its depth, and the
text after it. -/
def bracketedClass (flags : Flags) (text : List Char) :
    Except SyntaxError (CodeSet × Nat × List Char) := do
  let (cls, rest) := openClass flags text
  let (set, height, rest) ← readClass flags (rest.length + 1) cls [] rest
  if flags.unicode || set.withinAscii then return (set, height, rest)
  else throw .partialCharacter

end Gleaner.Regex
