import Gleaner.Text.Digits

/-!
# Sets of code points

A set of code points is kept as its maximal ranges in increasing order.  Tables are written as
in the Unicode character database: hexadecimal code points, a range as its two ends with `..`
between them.
-/

namespace Gleaner.Unicode

/-- A set of code points. -/
structure Ranges where
  /-- First and last code point of each maximal range, in increasing order. -/
  bounds : Array (Nat × Nat)

namespace Ranges

/-- The range that one word of a table stands for. -/
def ofWord (word : String) : Nat × Nat :=
  let first := word.toList.takeWhile (· != '.')
  let last := word.toList.dropWhile (· != '.')
  (Text.hexNumber first,
    if last.isEmpty then Text.hexNumber first else Text.hexNumber last)

/-- The words of a table, which spaces and line ends separate. -/
def wordsOf (table : String) : List String :=
  ((table.map fun c => if c == '\n' then ' ' else c).splitOn " ").filter (! ·.isEmpty)

/-- The set that a table stands for. -/
def ofText (table : String) : Ranges :=
  ⟨((wordsOf table).map ofWord).toArray⟩

/-- The code point lies in one of the ranges numbered from `low` up to but without `high`. -/
def containsWithin (bounds : Array (Nat × Nat)) (code low high : Nat) : Bool :=
  if low < high then
    let middle := (low + high) / 2
    match bounds[middle]? with
    | none => false
    | some (first, last) =>
        if code < first then containsWithin bounds code low middle
        else if last < code then containsWithin bounds code (middle + 1) high
        else true
  else
    false
termination_by high - low

/-- The code point belongs to the set. -/
def contains (ranges : Ranges) (code : Nat) : Bool :=
  containsWithin ranges.bounds code 0 ranges.bounds.size

/-- The code point belongs to one of the sets. -/
def unionContains (sets : List Ranges) (code : Nat) : Bool :=
  sets.any (·.contains code)

end Ranges

/-- A set of code points with the names that it goes by. -/
structure NamedSet where
  /-- Its names, in lower case and without separators. -/
  names : List String
  /-- Membership of a code point. -/
  contains : Nat → Bool

end Gleaner.Unicode
