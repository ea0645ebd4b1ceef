import Gleaner.Config
import Gleaner.Value.Basic

/-!
# Joining values

Values are joined text by text.  A scalar joins every element of a sequence; two sequences are
joined element by element, under the policy for different lengths.
-/

namespace Gleaner

/-- The texts one after the other.  Nothing adds nothing, and two nulls stay null. -/
def Primitive.join (left right : Primitive) : Primitive :=
  match left.toText?, right.toText? with
  | none, none => .null
  | leftText, rightText => .string (leftText.getD "" ++ rightText.getD "")

/-- The items followed by as many nulls as it takes to reach `length`. -/
def padTo (length : Nat) (items : List Primitive) : List Primitive :=
  items ++ List.replicate (length - items.length) .null

/-- The items joined pairwise, as far as both lists go. -/
def joinItems (left right : List Primitive) : List Primitive :=
  List.zipWith Primitive.join left right

/-- The lengths of two sequences that cannot be joined. -/
structure LengthMismatch where
  /-- Length of the left sequence. -/
  left : Nat
  /-- Length of the right sequence. -/
  right : Nat
  deriving DecidableEq, Repr

/-- The sequences joined element by element. -/
def joinSequences (policy : ZipPolicy) (left right : List Primitive) :
    Except LengthMismatch (List Primitive) :=
  if left.length = right.length then .ok (joinItems left right)
  else match policy with
    | .truncate => .ok (joinItems left right)
    | .pad =>
        let length := max left.length right.length
        .ok (joinItems (padTo length left) (padTo length right))
    | .error => .error { left := left.length, right := right.length }

/-- The joined value of two operands. -/
def Value.concat (policy : ZipPolicy) : Value → Value → Except LengthMismatch Value
  | scalar left, scalar right => .ok (scalar (left.join right))
  | scalar left, sequence right => .ok (sequence (right.map left.join))
  | sequence left, scalar right => .ok (sequence (left.map (·.join right)))
  | sequence left, sequence right => (joinSequences policy left right).map sequence

end Gleaner
