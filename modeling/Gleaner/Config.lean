/-!
# Configuration

The choices that an engine leaves to its user.
-/

namespace Gleaner

/-- How two sequences of different lengths are joined. -/
inductive ZipPolicy where
  /-- The extra elements of the longer one are dropped. -/
  | truncate
  /-- The shorter one is filled up with nulls. -/
  | pad
  /-- The evaluation fails. -/
  | error
  deriving DecidableEq, Repr

/-- The choices of an engine. -/
structure EngineConfig where
  /-- How sequences of different lengths are joined. -/
  zipPolicy : ZipPolicy := .truncate
  /-- Blanks around the text and the inner markup of elements are removed. -/
  trimText : Bool := true
  /-- Greatest number of rules that are remembered; `none` is no limit. -/
  cacheCapacity : Option Nat := none
  deriving DecidableEq, Repr

/-- The name of a policy as the engine displays it. -/
def ZipPolicy.display : ZipPolicy → String
  | truncate => "Truncate"
  | pad => "Pad"
  | error => "Error"

end Gleaner
