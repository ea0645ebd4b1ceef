import Gleaner.Rule.Pattern
import Gleaner.Value.Basic

/-!
# Narrowing values

A pattern narrows each primitive of a value to the part of its text that the pattern captures.
-/

namespace Gleaner

/-- What a pattern captures in the text of a primitive; nothing if it does not match. -/
def Primitive.sanitize (pattern : Pattern) (item : Primitive) : Primitive :=
  match item.toText? with
  | some text => .ofOption (pattern.firstCapture text)
  | none => .null

/-- The value with every primitive narrowed. -/
def Value.sanitize (pattern : Pattern) (value : Value) : Value :=
  value.map (Primitive.sanitize pattern)

end Gleaner
