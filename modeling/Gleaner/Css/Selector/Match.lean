import Gleaner.Css.Selector
import Gleaner.Html.Tree
import Gleaner.Text.Search

/-!
# Matching elements

Whether a selector holds of an element of a tree.
-/

namespace Gleaner

namespace Html.Tree

/-- The node is an element. -/
def isElement (tree : Tree) (id : NodeId) : Bool :=
  (tree.element? id).isSome

/-- The parent of a node, if it is an element. -/
def parentElement? (tree : Tree) (id : NodeId) : Option NodeId :=
  (tree.parent? id).filter tree.isElement

/-- The elements around a node, innermost first, up to a number. -/
def ancestorsWithin (tree : Tree) : Nat → NodeId → List NodeId
  | 0, _ => []
  | count + 1, id =>
      match tree.parentElement? id with
      | some parent => parent :: tree.ancestorsWithin count parent
      | none => []

/-- The elements around a node, innermost first. -/
def ancestors (tree : Tree) (id : NodeId) : List NodeId :=
  tree.ancestorsWithin tree.nodes.size id

/-- The element and its siblings that are elements, in order. -/
def elementSiblings (tree : Tree) (id : NodeId) : List NodeId :=
  match tree.parent? id with
  | some parent => (tree.children parent).filter tree.isElement
  | none => [id]

/-- The elements before an element among its siblings, the nearest first. -/
def elementsBefore (tree : Tree) (id : NodeId) : List NodeId :=
  ((tree.elementSiblings id).takeWhile (· != id)).reverse

/-- The elements after an element among its siblings. -/
def elementsAfter (tree : Tree) (id : NodeId) : List NodeId :=
  ((tree.elementSiblings id).dropWhile (· != id)).drop 1

/-- The elements that have a place in the tree, in the order in which they came into being. -/
def placedElements (tree : Tree) : List NodeId :=
  (List.range tree.nodes.size).filter fun id =>
    tree.isElement id && (tree.parent? id).isSome

/-- The element is the root. -/
def isRoot (tree : Tree) (id : NodeId) : Bool :=
  tree.parent? id == some documentId

/-- The node holds neither elements nor text. -/
def isEmptyNode (tree : Tree) (id : NodeId) : Bool :=
  (tree.children id).all fun child => !tree.isElement child && !tree.isText child

/-- The two elements have the same name in the same vocabulary. -/
def sameType (tree : Tree) (left right : NodeId) : Bool :=
  match tree.element? left, tree.element? right with
  | some left, some right => left.vocabulary == right.vocabulary && left.name == right.name
  | _, _ => false

end Html.Tree

namespace Css

open Html (Tree NodeId Element)

/-- The words of a text, which white space separates. -/
def wordsOf (text : List Char) : List (List Char) :=
  text.splitBy (fun left right => Html.isSpace left == Html.isSpace right)
    |>.filter fun word => !word.any Html.isSpace

/-- The element is one of HTML; the names in it are in lower case. -/
def isOfHtml (element : Element) : Bool :=
  element.vocabulary == .html

/-- A name as it is spelled in the element if it occurs there. -/
def spelledIn (element : Element) (name : String) : String :=
  if isOfHtml element then name.toLower else name

/-- The rule covers the element. -/
def CaseRule.covers (element : Element) : CaseRule → Bool
  | nowhere => false
  | inHtml => isOfHtml element
  | everywhere => true

/-- The value of an attribute of an element passes. -/
def ValueTest.passes (test : ValueTest) (element : Element) (value : String) : Bool :=
  let fold (text : String) := if test.caseless.covers element then text.toLower else text
  let value := (fold value).toList
  let sought := (fold test.value).toList
  match test.operator with
  | .equals => value == sought
  | .hasWord => !sought.isEmpty && (wordsOf value).contains sought
  | .hasStem => value == sought || (sought ++ ['-']).isPrefixOf value
  | .startsWith => !sought.isEmpty && sought.isPrefixOf value
  | .endsWith => !sought.isEmpty && Text.endsWith sought value
  | .contains => !sought.isEmpty && Text.occurs sought value

/-- An attribute of the element passes. -/
def AttributeTest.passes (test : AttributeTest) (element : Element) : Bool :=
  element.attributes.any fun (name, value) =>
    (test.mayBeQualified || name.qualifier == .plain) &&
      name.name == spelledIn element test.name && test.value?.all (·.passes element value)

/-- The position of the element passes. -/
def PositionTest.holds (test : PositionTest) (tree : Tree) (id : NodeId) : Bool :=
  let others := if test.fromEnd then tree.elementsAfter id else tree.elementsBefore id
  let counted := if test.ofType then others.filter (tree.sameType id) else others
  test.passes (counted.length + 1)

/-- The element is of the class. -/
def isOfClass (element : Element) (name : String) : Bool :=
  (element.attribute? "class").any fun value => (wordsOf value.toList).contains name.toList

/-- The elements that an element may stand to as the combinator tells. -/
def Combinator.candidates (combinator : Combinator) (tree : Tree) (id : NodeId) : List NodeId :=
  match combinator with
  | .descendant => tree.ancestors id
  | .child => (tree.parentElement? id).toList
  | .nextSibling => (tree.elementsBefore id).take 1
  | .laterSibling => tree.elementsBefore id

mutual

/-- The condition holds of an element. -/
def Simple.holds (tree : Tree) (anchor? : Option NodeId) (id : NodeId) : Simple → Bool
  | .name name => (tree.element? id).any fun element => element.name == spelledIn element name
  | .outsideVocabularies => false
  | .id value => (tree.element? id).any fun element => element.attribute? "id" == some value
  | .ofClass name => (tree.element? id).any (isOfClass · name)
  | .withAttribute test => (tree.element? id).any test.passes
  | .position test => test.holds tree id
  | .root => tree.isRoot id
  | .empty => tree.isEmptyNode id
  | .anyOf selectors => anyHolds tree anchor? id selectors
  | .noneOf selectors => !anyHolds tree anchor? id selectors
  | .leadsTo selectors =>
      tree.placedElements.any fun other => anyHolds tree (some id) other selectors

/-- All conditions hold of an element. -/
def allHold (tree : Tree) (anchor? : Option NodeId) (id : NodeId) : List Simple → Bool
  | [] => true
  | condition :: rest =>
      Simple.holds tree anchor? id condition && allHold tree anchor? id rest

/-- The selector holds of an element, where it may start at another one. -/
def Selector.holds (tree : Tree) (anchor? : Option NodeId) (id : NodeId) : Selector → Bool
  | .anchor => anchor? == some id
  | .compound conditions => allHold tree anchor? id conditions
  | .joined left combinator conditions =>
      allHold tree anchor? id conditions &&
        (combinator.candidates tree id).any fun other => Selector.holds tree anchor? other left

/-- One of the selectors holds of an element. -/
def anyHolds (tree : Tree) (anchor? : Option NodeId) (id : NodeId) : List Selector → Bool
  | [] => false
  | selector :: rest =>
      Selector.holds tree anchor? id selector || anyHolds tree anchor? id rest

end

/-- The elements of which one of the selectors holds. -/
def select (tree : Tree) (selectors : List Selector) : List NodeId :=
  tree.placedElements.filter fun id => anyHolds tree none id selectors

end Css

end Gleaner
