import Gleaner.Text.Blank
import Gleaner.Unicode.Folding
import Gleaner.Unicode.Property

/-!
# Sets of code points in patterns

A set is its membership test.  The operations are those that a pattern can spell: ranges,
unions, intersections, differences, complements and closure under case.
-/

namespace Gleaner.Regex

/-- A set of code points. -/
abbrev CodeSet := Nat → Bool

namespace CodeSet

/-- The set without members. -/
def none : CodeSet := fun _ => false

/-- The set of one code point. -/
def single (member : Nat) : CodeSet := fun code => code == member

/-- The code points from `first` to `last`, both included. -/
def range (first last : Nat) : CodeSet := fun code => first ≤ code && code ≤ last

/-- The members of either set. -/
def union (left right : CodeSet) : CodeSet := fun code => left code || right code

/-- The members of both sets. -/
def inter (left right : CodeSet) : CodeSet := fun code => left code && right code

/-- The members of the first set that the second one lacks. -/
def diff (left right : CodeSet) : CodeSet := fun code => left code && ! right code

/-- The members of exactly one of the sets. -/
def symmDiff (left right : CodeSet) : CodeSet := fun code => left code != right code

/-- The code points outside the set. -/
def compl (set : CodeSet) : CodeSet := fun code => ! set code

/-- The members of the set if it is not negated, the others if it is. -/
def negatedIf (negated : Bool) (set : CodeSet) : CodeSet := if negated then set.compl else set

/-- The code points that differ only in case from some member. -/
def folded (set : CodeSet) : CodeSet :=
  fun code => (Unicode.Folding.equivalents code).any set

/-- The code points that differ from some member only in the case of an ASCII letter. -/
def foldedAscii (set : CodeSet) : CodeSet := fun code =>
  set code || (0x41 ≤ code && code ≤ 0x5A && set (code + 0x20)) ||
    (0x61 ≤ code && code ≤ 0x7A && set (code - 0x20))

/-- The set has no member among the bytes beyond ASCII. -/
def withinAscii (set : CodeSet) : Bool :=
  (List.range 128).all fun index => ! set (index + 128)

/-- The ASCII decimal digits. -/
def asciiDigit : CodeSet := range 0x30 0x39

/-- The ASCII white space that a pattern's `\s` stands for. -/
def asciiSpace : CodeSet := fun code => 0x9 ≤ code && code ≤ 0xD || code == 0x20

/-- The ASCII letters, digits and the underscore. -/
def asciiWord : CodeSet := fun code => code < 0x80 && Unicode.Property.isWordPart code

/-- The white space of the character database. -/
def space : CodeSet := fun code => Text.isBlank (Char.ofNat code)

/-- The set that a bracketed class name such as `[:alpha:]` stands for. -/
def ofClassName? (name : List Char) : Option CodeSet :=
  match String.ofList name with
  | "alnum" => some ((range 0x30 0x39).union ((range 0x41 0x5A).union (range 0x61 0x7A)))
  | "alpha" => some ((range 0x41 0x5A).union (range 0x61 0x7A))
  | "ascii" => some (range 0 0x7F)
  | "blank" => some ((single 0x9).union (single 0x20))
  | "cntrl" => some ((range 0 0x1F).union (single 0x7F))
  | "digit" => some asciiDigit
  | "graph" => some (range 0x21 0x7E)
  | "lower" => some (range 0x61 0x7A)
  | "print" => some (range 0x20 0x7E)
  | "punct" => some ((range 0x21 0x2F).union
      ((range 0x3A 0x40).union ((range 0x5B 0x60).union (range 0x7B 0x7E))))
  | "space" => some asciiSpace
  | "upper" => some (range 0x41 0x5A)
  | "word" => some asciiWord
  | "xdigit" => some ((range 0x30 0x39).union ((range 0x41 0x46).union (range 0x61 0x66)))
  | _ => Option.none

end CodeSet

end Gleaner.Regex
