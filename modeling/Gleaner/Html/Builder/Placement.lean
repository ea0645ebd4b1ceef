import Gleaner.Html.Builder

/-!
# Placing nodes

Where new nodes go: to the end of the innermost open element, or, if that is a part of a table
in which they do not belong, before the table.
-/

namespace Gleaner.Html

/-- A place for a node. -/
inductive Place where
  /-- At the end of a parent's children. -/
  | within (parent : NodeId)
  /-- Before a sibling. -/
  | before (sibling : NodeId)

namespace Tree

/-- The tree with a node moved to a place. -/
def put (tree : Tree) (child : NodeId) : Place → Tree
  | .within parent => tree.append parent child
  | .before sibling => tree.insertBefore sibling child

/-- The tree with a character added at a place. -/
def putChar (tree : Tree) (c : Char) : Place → Tree
  | .within parent => tree.appendChar parent c
  | .before sibling => tree.insertCharBefore sibling c

end Tree

namespace Builder

/-- The place for what does not belong into the table that is innermost among the open elements. -/
def fosterPlace (builder : Builder) : List NodeId → Place
  | [] => .within (builder.root?.getD Tree.documentId)
  | id :: outer =>
      if builder.isNamed "template" id then .within (builder.tree.holder id)
      else if builder.isNamed "table" id then
        if (builder.tree.parent? id).isSome then .before id
        else .within (outer.head?.getD id)
      else builder.fosterPlace outer

/-- The place for a node that is to go into a target. -/
def placeIn (builder : Builder) (target : NodeId) : Place :=
  if builder.fosters && builder.isNamedIn tableStructure target then
    builder.fosterPlace builder.stack
  else .within (builder.tree.holder target)

/-- The place for the next node. -/
def place (builder : Builder) : Place :=
  builder.placeIn (builder.stack.head?.getD Tree.documentId)

/-- The builder with a node that is added to the tree at a place. -/
def addAt (builder : Builder) (place : Place) (content : NodeContent) : Builder :=
  { builder with tree := (builder.tree.add content).put builder.tree.nextId place }

/-- The builder with an element that is added to the tree at a place. -/
def addElementAt (builder : Builder) (place : Place) (element : Element) : Builder :=
  { builder with tree := (builder.tree.addElement element).put builder.tree.nextId place }

/-- The builder with a character added. -/
def addChar (builder : Builder) (c : Char) : Builder :=
  { builder with tree := builder.tree.putChar c builder.place }

/-- The builder with a comment added. -/
def addComment (builder : Builder) (content : String) : Builder :=
  builder.addAt builder.place (.comment content)

/-- The builder with a comment added to a parent. -/
def addCommentTo (builder : Builder) (parent : NodeId) (content : String) : Builder :=
  builder.addAt (.within parent) (.comment content)

/-- The builder with an element added that is not open. -/
def addElement (builder : Builder) (element : Element) : Builder :=
  builder.addElementAt builder.place element

/-- The builder with an element added and open. -/
def openElement (builder : Builder) (element : Element) : Builder :=
  let id := builder.tree.nextId
  let builder := builder.addElement element
  { builder with stack := id :: builder.stack }

/-- The builder with the element of a tag added and open. -/
def openTag (builder : Builder) (tag : Tag) : Builder :=
  builder.openElement (.ofTag tag)

/-- The builder with an element of the name added and open. -/
def openNamed (builder : Builder) (name : String) : Builder :=
  builder.openTag { name }

/-- The builder with the element of a tag added, which holds nothing. -/
def addVoid (builder : Builder) (tag : Tag) : Builder :=
  builder.addElement (.ofTag tag)

/-- The builder with the element of a tag open, whose text is read by the content model. -/
def openText (builder : Builder) (tag : Tag) (content : ContentModel) : Builder :=
  { builder.openTag tag with returnMode := builder.mode, mode := .inText, content }

/-- The builder with the root element added and open. -/
def openRoot (builder : Builder) (tag : Tag) : Builder :=
  let id := builder.tree.nextId
  let builder := builder.addElementAt (.within Tree.documentId) (.ofTag tag)
  { builder with stack := id :: builder.stack }

/-- The builder with the head added and open. -/
def openHead (builder : Builder) (tag : Tag) : Builder :=
  { builder.openTag tag with head? := some builder.tree.nextId }

/-- The builder whose root also has the attributes of a tag, unless a template is open. -/
def mergeRoot (builder : Builder) (tag : Tag) : Builder :=
  match builder.root? with
  | some root =>
      if builder.hasOpen "template" then builder
      else { builder with tree := builder.tree.addAttributes root (Element.plainAttributes tag) }
  | none => builder

end Builder

end Gleaner.Html
