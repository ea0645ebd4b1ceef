import Gleaner.Demo.Named

/-!
# Command line

Prints the demonstrations whose names are given.
-/

namespace Gleaner

/-- Prints the demonstration of a name, or the names that there are. -/
def printDemo (name : String) : IO Unit :=
  match Demo.lines? name with
  | some lines => lines.forM IO.println
  | none => IO.eprintln ("demonstrations: " ++ ", ".intercalate (Demo.all.map (·.1)))

end Gleaner

/-- Prints the demonstrations whose names are given. -/
def main (names : List String) : IO Unit :=
  names.forM Gleaner.printDemo
