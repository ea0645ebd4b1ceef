import Gleaner.Regex.Syntax

/-!
# Reading patterns

The part of a pattern that is still to be read, together with the flags in force there.  With
the flag `extended` white space and comments between the parts of a pattern are skipped.
-/

namespace Gleaner.Regex

/-- The flags that govern how a pattern is read. -/
structure Flags where
  /-- Letters match without regard to case. -/
  insensitive : Bool := false
  /-- `^` and `$` match at lines. -/
  multiLine : Bool := false
  /-- `.` matches line ends too. -/
  dotAll : Bool := false
  /-- Repetitions are lazy and become greedy by a `?`. -/
  swapGreed : Bool := false
  /-- Classes and case are those of the character database, not of ASCII. -/
  unicode : Bool := true
  /-- A carriage return ends a line too. -/
  anyLineEnd : Bool := false
  /-- White space and comments are skipped. -/
  extended : Bool := false

namespace Flags

/-- The flags with the one that the letter names switched. -/
def switch? (flags : Flags) (on : Bool) : Char → Option Flags
  | 'i' => some { flags with insensitive := on }
  | 'm' => some { flags with multiLine := on }
  | 's' => some { flags with dotAll := on }
  | 'U' => some { flags with swapGreed := on }
  | 'u' => some { flags with unicode := on }
  | 'R' => some { flags with anyLineEnd := on }
  | 'x' => some { flags with extended := on }
  | _ => none

end Flags

/-- The text without the white space and comments at its start. -/
def skipBlanks (inComment : Bool) : List Char → List Char
  | [] => []
  | c :: rest =>
      if inComment then skipBlanks (c != '\n') rest
      else if Text.isBlank c then skipBlanks false rest
      else if c == '#' then skipBlanks true rest
      else c :: rest

namespace Flags

/-- The text from which reading goes on: under `extended`, past white space and comments. -/
def skip (flags : Flags) (text : List Char) : List Char :=
  if flags.extended then skipBlanks false text else text

end Flags

/-- The text after its first `count` hexadecimal digits, and those digits; blanks between them
are skipped under `extended`. -/
def takeHex (flags : Flags) : Nat → List Char → Except SyntaxError (List Char × List Char)
  | 0, text => .ok ([], text)
  | count + 1, text =>
      match text with
      | [] => .error .badEscape
      | c :: rest =>
          if (Text.hexDigit? c).isSome then do
            let (digits, rest) ← takeHex flags count (flags.skip rest)
            return (c :: digits, rest)
          else
            .error .badEscape

/-- The characters up to a closing brace, and the text after it. -/
def takeBraced (flags : Flags) : Nat → List Char → Except SyntaxError (List Char × List Char)
  | 0, _ => .error .badEscape
  | _ + 1, [] => .error .badEscape
  | fuel + 1, c :: rest =>
      if c == '\x7d' then .ok ([], rest)
      else do
        let (inside, rest) ← takeBraced flags fuel (flags.skip rest)
        return (c :: inside, rest)

/-- The characters before a closing brace; `text` starts right after the opening one. -/
def braced (flags : Flags) (text : List Char) : Except SyntaxError (List Char × List Char) :=
  takeBraced flags (text.length + 1) (flags.skip text)

/-- The character with the code point, if there is one. -/
def character? (code : Nat) : Option Char :=
  if code < 0xD800 || (0xDFFF < code && code < 0x110000) then some (Char.ofNat code) else none

/-- The decimal digits at the start of the text as a number below 2^32, with the blanks around
them skipped.  A number without digits is `none`. -/
def takeDecimal (flags : Flags) (text : List Char) :
    Except SyntaxError (Option Nat × List Char) :=
  let rec digits : Nat → List Char → List Char × List Char
    | 0, text => ([], text)
    | fuel + 1, text =>
        match text with
        | [] => ([], [])
        | c :: rest =>
            if c.isDigit then
              let (more, rest) := digits fuel (flags.skip rest)
              (c :: more, rest)
            else
              ([], text)
  let (found, rest) := digits (text.length + 1) (Text.trimStart text)
  let rest := flags.skip (Text.trimStart rest)
  if found.isEmpty then .ok (none, rest)
  else
    let value := Text.decimalNumber found
    if value < 4294967296 then .ok (some value, rest) else .error .malformedCount

end Gleaner.Regex
