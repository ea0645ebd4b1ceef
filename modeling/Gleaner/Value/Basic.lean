import Gleaner.Json.Printer

/-!
# Extracted values

What a rule extracts is one primitive or a sequence of primitives.  An empty sequence means that
nothing matched.
-/

namespace Gleaner

/-- A single extracted value. -/
inductive Primitive where
  /-- Nothing. -/
  | null
  /-- A truth value. -/
  | bool (value : Bool)
  /-- A number. -/
  | number (value : Number)
  /-- A string. -/
  | string (value : String)
  deriving DecidableEq, Repr

namespace Primitive

/-- The primitive is nothing. -/
def isNull : Primitive → Bool
  | null => true
  | _ => false

/-- The primitive as text, in which whole numbers have no fraction; nothing has no text. -/
def toText? : Primitive → Option String
  | null => none
  | bool true => some "true"
  | bool false => some "false"
  | number value => some value.plain
  | string value => some value

/-- The primitive of a JSON value: a container becomes its compact written form. -/
def ofJson : Json → Primitive
  | .null => null
  | .bool value => bool value
  | .number value => number value
  | .string value => string value
  | container => string container.render

/-- The primitive as a JSON value. -/
def toJson : Primitive → Json
  | null => .null
  | bool value => .bool value
  | number value => .number value
  | string value => .string value

/-- The string, or nothing. -/
def ofOption : Option String → Primitive
  | some text => string text
  | none => null

/-- The float, or nothing where there is none. -/
def ofFloat : Option Binary64 → Primitive
  | some value => number (.float value)
  | none => null

/-- The primitive for display; strings are quoted as they are. -/
def display : Primitive → String
  | null => "null"
  | string value => "\"" ++ value ++ "\""
  | other => other.toText?.getD ""

end Primitive

/-- One primitive, or a sequence of them. -/
inductive Value where
  /-- One primitive. -/
  | scalar (item : Primitive)
  /-- Any number of primitives. -/
  | sequence (items : List Primitive)
  deriving DecidableEq, Repr

namespace Value

/-- The value for nothing. -/
def null : Value :=
  scalar .null

/-- The value for a list of matches: one match alone is a scalar. -/
def ofMatches : List Primitive → Value
  | [only] => scalar only
  | items => sequence items

/-- The value is nothing or an empty sequence. -/
def isAbsent : Value → Bool
  | scalar item => item.isNull
  | sequence items => items.isEmpty

/-- The value counts as a match: something other than nothing is in it. -/
def isSuccess : Value → Bool
  | scalar item => ! item.isNull
  | sequence items => items.any (! ·.isNull)

/-- The value without the nulls of a sequence, if anything is left. -/
def success? : Value → Option Value
  | scalar item => if item.isNull then none else some (scalar item)
  | sequence items =>
      let kept := items.filter (! ·.isNull)
      if kept.isEmpty then none else some (sequence kept)

/-- The function applied to every primitive of the value. -/
def map (f : Primitive → Primitive) : Value → Value
  | scalar item => scalar (f item)
  | sequence items => sequence (items.map f)

/-- The string of a scalar string. -/
def string? : Value → Option String
  | scalar (.string text) => some text
  | _ => none

/-- The value as a JSON value. -/
def toJson : Value → Json
  | scalar item => item.toJson
  | sequence items => .array (items.map Primitive.toJson)

/-- The value for display. -/
def display : Value → String
  | scalar item => item.display
  | sequence items => "[" ++ String.intercalate ", " (items.map Primitive.display) ++ "]"

end Value

end Gleaner
