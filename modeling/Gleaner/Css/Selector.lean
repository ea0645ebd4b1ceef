import Gleaner.Css.Token

/-!
# Selectors

A selector describes elements: by compounds of conditions, and by how the elements that meet them
stand to one another.
-/

namespace Gleaner.Css

/-- How an element stands to one that comes before it. -/
inductive Combinator where
  /-- It is within it. -/
  | descendant
  /-- It is right within it. -/
  | child
  /-- It comes right after it. -/
  | nextSibling
  /-- It comes after it. -/
  | laterSibling
  deriving DecidableEq, Repr

/-- Where ASCII letters are compared without regard to case. -/
inductive CaseRule where
  /-- Nowhere. -/
  | nowhere
  /-- In elements of HTML. -/
  | inHtml
  /-- In every element. -/
  | everywhere
  deriving DecidableEq, Repr

/-- A condition on the value of an attribute. -/
structure ValueTest where
  /-- How the value is compared. -/
  operator : Operator
  /-- What it is compared with. -/
  value : String
  /-- Where case does not matter. -/
  caseless : CaseRule
  deriving DecidableEq, Repr

/-- A condition on an attribute. -/
structure AttributeTest where
  /-- The name of the attribute; on elements of HTML its case does not matter. -/
  name : String
  /-- The name may be a qualified one. -/
  mayBeQualified : Bool := false
  /-- The condition on its value. -/
  value? : Option ValueTest := none
  deriving DecidableEq, Repr

/-- A condition on the position among siblings: it is `step * n + offset` for some `n`. -/
structure PositionTest where
  /-- Only siblings of the same name count. -/
  ofType : Bool
  /-- Siblings are counted from the last. -/
  fromEnd : Bool
  /-- The difference between two positions. -/
  step : Int
  /-- The position for the number zero. -/
  offset : Int
  deriving DecidableEq, Repr

namespace PositionTest

/-- The first of the siblings. -/
def first (ofType : Bool) : PositionTest :=
  ⟨ofType, false, 0, 1⟩

/-- The last of the siblings. -/
def last (ofType : Bool) : PositionTest :=
  ⟨ofType, true, 0, 1⟩

/-- The position passes.  Differences that exceed machine integers of 32 bits do not. -/
def passes (test : PositionTest) (position : Nat) : Bool :=
  let distance := (position : Int) - test.offset
  if 2147483647 < distance then false
  else if test.step == 0 then distance == 0
  else distance % test.step == 0 && 0 ≤ distance / test.step

end PositionTest

mutual

/-- A condition on an element. -/
inductive Simple where
  /-- The element has the name; for elements of HTML its case does not matter. -/
  | name (name : String)
  /-- The name of the element belongs to no vocabulary. -/
  | outsideVocabularies
  /-- The element has the identifier. -/
  | id (id : String)
  /-- The element is of the class. -/
  | ofClass (name : String)
  /-- The element has an attribute. -/
  | withAttribute (test : AttributeTest)
  /-- The element has a position among its siblings. -/
  | position (test : PositionTest)
  /-- The element is the root. -/
  | root
  /-- The element holds neither elements nor text. -/
  | empty
  /-- One of the selectors holds of the element. -/
  | anyOf (selectors : List Selector)
  /-- None of the selectors holds of the element. -/
  | noneOf (selectors : List Selector)
  /-- One of the selectors, which start at the element, holds of some element. -/
  | leadsTo (selectors : List Selector)

/-- A selector. -/
inductive Selector where
  /-- The element that a condition is put on. -/
  | anchor
  /-- An element with all the properties. -/
  | compound (conditions : List Simple)
  /-- An element with all the properties that stands to one of the left selector as told. -/
  | joined (left : Selector) (combinator : Combinator) (conditions : List Simple)

end

end Gleaner.Css
