import Gleaner.Json.Path.Parser
import Gleaner.Text.Search

/-!
# Reports on malformed paths

Shows a malformed path with a caret under the place where reading stopped.  A path of several
lines is shown by the line of that place, with its number.
-/

namespace Gleaner.Json.BadPath

/-- As many spaces. -/
private def spaces (count : Nat) : String :=
  Text.repeated count " "

/-- The part of the line in front of the place that the report points to. -/
def lineBefore (bad : BadPath) : List Char :=
  (bad.accepted.reverse.takeWhile (· != '\n')).reverse

/-- Number of columns in front of the place: characters, or bytes if the place holds a character
beyond ASCII. -/
def column (bad : BadPath) : Nat :=
  match bad.rest with
  | c :: _ => if c.toNat < 0x80 then bad.lineBefore.length else Text.byteLength bad.lineBefore
  | [] => bad.lineBefore.length

/-- The report on a path of one line. -/
def shortReport (bad : BadPath) : String :=
  String.ofList (bad.accepted ++ bad.rest) ++ "\n" ++ spaces bad.offset ++ "^\n"

/-- The report on a path of several lines. -/
def lineReport (bad : BadPath) : String :=
  let number := toString (bad.accepted.count '\n' + 1)
  let gutter := spaces number.length
  let line := String.ofList (bad.lineBefore ++ bad.rest.takeWhile (· != '\n'))
  "parse error at line " ++ number ++ ", column " ++ toString (bad.column + 1) ++ "\n" ++
    gutter ++ " |\n" ++
    number ++ " | " ++ line ++ "\n" ++
    gutter ++ " | " ++ spaces bad.column ++ "^\n"

/-- The report on a malformed path. -/
def report (bad : BadPath) : String :=
  if (bad.accepted ++ bad.rest).contains '\n' then bad.lineReport else bad.shortReport

end Gleaner.Json.BadPath
