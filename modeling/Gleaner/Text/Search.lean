/-!
# Searching texts

Occurrence tests on texts, and texts joined by a separator.
-/

namespace Gleaner.Text

/-- The word occurs somewhere in the text. -/
def occurs (word : List Char) : List Char → Bool
  | [] => word.isEmpty
  | c :: rest => word.isPrefixOf (c :: rest) || occurs word rest

/-- The text ends with the word. -/
def endsWith (word text : List Char) : Bool :=
  word.reverse.isPrefixOf text.reverse

/-- The string repeated `count` times. -/
def repeated (count : Nat) (text : String) : String :=
  String.join (List.replicate count text)

/-- The string followed by as many spaces as it takes to reach `width` characters. -/
def padded (width : Nat) (text : String) : String :=
  text ++ repeated (width - text.length) " "

end Gleaner.Text
