/-!
# Escaped separators

Two number signs separate a selector from the pattern that narrows it.  Where a text holds two
number signs of its own, a backslash goes in front of them.
-/

namespace Gleaner.Rule

/-- The text with a backslash in front of every pair of number signs, pairs taken from the left. -/
def escape : List Char → List Char
  | '#' :: '#' :: rest => '\\' :: '#' :: '#' :: escape rest
  | c :: rest => c :: escape rest
  | [] => []

/-- The text without the backslashes that stand in front of pairs of number signs. -/
def unescape : List Char → List Char
  | '\\' :: '#' :: '#' :: rest => '#' :: '#' :: unescape rest
  | c :: rest => c :: unescape rest
  | [] => []

/-- The texts before and after the last pair of number signs with no backslash in front;
`escaped` tells whether a backslash stands in front of the whole text. -/
def cutLast (escaped : Bool) : List Char → Option (List Char × List Char)
  | [] => none
  | c :: rest =>
      match cutLast (c == '\\') rest with
      | some (before, after) => some (c :: before, after)
      | none =>
          match c, rest with
          | '#', '#' :: after => if escaped then none else some ([], after)
          | _, _ => none

/-- The selector of a term, and its narrowing pattern if the term has a separator. -/
def splitSanitizer (term : List Char) : List Char × Option (List Char) :=
  match cutLast false term with
  | some (body, sanitizer) => (body, some sanitizer)
  | none => (term, none)

/-- The string with its separators escaped. -/
def escaped (text : String) : String :=
  String.ofList (escape text.toList)

/-- The string that unescaping the text gives. -/
def unescaped (text : List Char) : String :=
  String.ofList (unescape text)

end Gleaner.Rule
