import Gleaner.Regex.Reader

/-!
# Escapes

What a backslash and the characters after it stand for in a pattern: a character, a set of
characters, or a condition on the place between two characters.
-/

namespace Gleaner.Regex

/-- The smallest parts of a pattern. -/
inductive Atom where
  /-- A character; `byte` if it is spelt by two hexadecimal digits. -/
  | char (code : Nat) (byte : Bool)
  /-- A set with a name, already closed under case where the flags ask for it. -/
  | named (members : CodeSet)
  /-- A condition between two characters. -/
  | look (condition : Look)

/-- Characters that have a meaning of their own in patterns. -/
def isMeta (c : Char) : Bool :=
  ['\\', '.', '+', '*', '?', '(', ')', '|', '[', ']', '\x7b', '\x7d', '^', '$', '#', '&', '-',
    '~'].contains c

/-- Characters that stand for themselves after a backslash: all of ASCII but letters, digits
and angle brackets. -/
def isEscapable (c : Char) : Bool :=
  isMeta c || (c.toNat < 0x80 && ! c.isAlphanum && c != '<' && c != '>')

/-- The word characters under the flags. -/
def Flags.wordSet (flags : Flags) : CodeSet :=
  if flags.unicode then Unicode.Property.isWordPart else CodeSet.asciiWord

/-- The set closed under case if the flags ask for it. -/
def Flags.fold (flags : Flags) (set : CodeSet) : CodeSet :=
  if flags.insensitive then if flags.unicode then set.folded else set.foldedAscii else set

/-- The set of one of the letters `d`, `s` and `w`, or its complement for a capital one. -/
def classLetter? (flags : Flags) (c : Char) : Option Atom :=
  match c with
  | 'd' => some (.named digits)
  | 'D' => some (.named digits.compl)
  | 's' => some (.named spaces)
  | 'S' => some (.named spaces.compl)
  | 'w' => some (.named flags.wordSet)
  | 'W' => some (.named flags.wordSet.compl)
  | _ => none
where
  digits : CodeSet := if flags.unicode then Unicode.Property.isDecimalDigit else CodeSet.asciiDigit
  spaces : CodeSet := if flags.unicode then CodeSet.space else CodeSet.asciiSpace

/-- The position of the first occurrence of the mark, as the texts before and after it. -/
def splitAtMark (mark : List Char) : List Char → Option (List Char × List Char)
  | [] => none
  | c :: rest =>
      if mark.isPrefixOf (c :: rest) then some ([], (c :: rest).drop mark.length)
      else (splitAtMark mark rest).map fun (before, after) => (c :: before, after)

/-- A property in braces, as the set it names and whether the set's complement is meant: `name`,
`name=value`, `name:value`, or `name!=value` for the complement. -/
def propertySet? (inside : List Char) : Option (CodeSet × Bool) :=
  let valued (parts : List Char × List Char) : Option CodeSet :=
    Unicode.Property.valued? (Unicode.looseName parts.1) (Unicode.looseName parts.2)
  match splitAtMark ['!', '='] inside with
  | some parts => (valued parts).map fun set => (set, true)
  | none =>
      let set := match splitAtMark [':'] inside with
        | some parts => valued parts
        | none =>
            match splitAtMark ['='] inside with
            | some parts => valued parts
            | none => Unicode.Property.named? (Unicode.looseName inside)
      set.map fun set => (set, false)

/-- The set named after `\p` or `\P`; `text` starts after that letter.  It is closed under case
before a complement is taken. -/
def propertyAtom (flags : Flags) (negated : Bool) (text : List Char) :
    Except SyntaxError (Atom × List Char) := do
  let (name, rest) ← match flags.skip text with
    | [] => throw .badEscape
    | '\\' :: _ => throw .badEscape
    | '\x7b' :: rest => braced flags rest
    | c :: rest => pure ([c], flags.skip rest)
  unless flags.unicode do throw .partialCharacter
  match propertySet? name with
  | none => throw .unknownProperty
  | some (set, complement) =>
      return (.named ((flags.fold set).negatedIf (negated != complement)), rest)

/-- The character spelt in hexadecimal after `\x`, `\u` or `\U`: that many digits, or any number
of them in braces. -/
def hexAtom (flags : Flags) (digits : Nat) (text : List Char) :
    Except SyntaxError (Atom × List Char) := do
  let (spelling, rest, byte) ← match flags.skip text with
    | [] => throw .badEscape
    | '\x7b' :: rest => do
        let (inside, rest) ← braced flags rest
        pure (inside, flags.skip rest, false)
    | text => do
        let (found, rest) ← takeHex flags digits text
        pure (found, rest, digits == 2)
  if spelling.isEmpty || ! spelling.all (Text.hexDigit? · |>.isSome) then throw .badEscape
  match character? (Text.hexNumber spelling) with
  | none => throw .badEscape
  | some c => return (.char c.toNat byte, rest)

/-- The condition named in braces after `\b`, if what follows is such a name. -/
def namedBoundary (flags : Flags) (text : List Char) :
    Except SyntaxError (Atom × List Char) :=
  let plain := (Atom.look (.boundary flags.wordSet), text)
  let isNameChar (c : Char) : Bool := c.isAlpha || c == '-'
  match text with
  | '\x7b' :: rest =>
      match flags.skip rest with
      | [] => .error .badEscape
      | c :: rest =>
          if isNameChar c then do
            let (name, rest) ← (braced flags (c :: rest)).mapError fun _ => .badEscape
            match String.ofList name with
            | "start" => return (.look (.wordStart flags.wordSet), rest)
            | "end" => return (.look (.wordEnd flags.wordSet), rest)
            | "start-half" => return (.look (.wordStartHalf flags.wordSet), rest)
            | "end-half" => return (.look (.wordEndHalf flags.wordSet), rest)
            | _ => .error .badEscape
          else .ok plain
  | _ => .ok plain

/-- What the text after a backslash stands for, and the text after that. -/
def escapeAtom (flags : Flags) : List Char → Except SyntaxError (Atom × List Char)
  | [] => .error .badEscape
  | c :: rest =>
      if c.isDigit then .error .backreference
      else match c with
      | 'x' => hexAtom flags 2 rest
      | 'u' => hexAtom flags 4 rest
      | 'U' => hexAtom flags 8 rest
      | 'p' => propertyAtom flags false rest
      | 'P' => propertyAtom flags true rest
      | 'a' => .ok (.char 0x7 false, rest)
      | 'f' => .ok (.char 0xC false, rest)
      | 't' => .ok (.char 0x9 false, rest)
      | 'n' => .ok (.char 0xA false, rest)
      | 'r' => .ok (.char 0xD false, rest)
      | 'v' => .ok (.char 0xB false, rest)
      | 'A' => .ok (.look .textStart, rest)
      | 'z' => .ok (.look .textEnd, rest)
      | 'b' => namedBoundary flags rest
      | 'B' => .ok (.look (.noBoundary flags.wordSet), rest)
      | '<' => .ok (.look (.wordStart flags.wordSet), rest)
      | '>' => .ok (.look (.wordEnd flags.wordSet), rest)
      | _ =>
          match classLetter? flags c with
          | some atom => .ok (atom, rest)
          | none => if isEscapable c then .ok (.char c.toNat false, rest) else .error .badEscape

end Gleaner.Regex
