import Gleaner.Html.Element

/-!
# Trees of documents

The nodes of a document are numbered in the order in which they come into being; node 0 is the
document itself.  Each node knows its parent and its children, and text nodes that would stand
side by side are one node.  A template does not hold its content itself: its only child is a
fragment, which does.
-/

namespace Gleaner.Html

/-- The number of a node. -/
abbrev NodeId := Nat

/-- What a node is. -/
inductive NodeContent where
  /-- The document. -/
  | document
  /-- A document type. -/
  | doctype (name : String)
  /-- An element. -/
  | element (element : Element)
  /-- A run of text. -/
  | text (content : String)
  /-- A comment. -/
  | comment (content : String)
  /-- What holds the content of a template. -/
  | fragment
  deriving DecidableEq, Repr

/-- A node with its place. -/
structure Node where
  /-- What the node is. -/
  content : NodeContent
  /-- Its parent, if it has a place in the tree. -/
  parent? : Option NodeId := none
  /-- Its children, in order. -/
  children : Array NodeId := #[]
  deriving Repr

/-- A tree of nodes. -/
structure Tree where
  /-- The nodes by number. -/
  nodes : Array Node
  deriving Repr

namespace Tree

/-- The number of the document itself. -/
def documentId : NodeId := 0

/-- The tree of an empty document. -/
def empty : Tree :=
  ⟨#[{ content := .document }]⟩

/-- The node of a number. -/
def node? (tree : Tree) (id : NodeId) : Option Node :=
  tree.nodes[id]?

/-- The element of a number. -/
def element? (tree : Tree) (id : NodeId) : Option Element :=
  match tree.node? id with
  | some { content := .element element, .. } => some element
  | _ => none

/-- The node is a run of text. -/
def isText (tree : Tree) (id : NodeId) : Bool :=
  match tree.node? id with
  | some { content := .text _, .. } => true
  | _ => false

/-- The node is the fragment of a template. -/
def isFragment (tree : Tree) (id : NodeId) : Bool :=
  match tree.node? id with
  | some { content := .fragment, .. } => true
  | _ => false

/-- The parent of a node. -/
def parent? (tree : Tree) (id : NodeId) : Option NodeId :=
  tree.node? id |>.bind (·.parent?)

/-- The children of a node. -/
def children (tree : Tree) (id : NodeId) : List NodeId :=
  ((tree.node? id).map (·.children.toList)).getD []

/-- The node that takes what goes into a node: of a template its fragment, else the node itself. -/
def holder (tree : Tree) (id : NodeId) : NodeId :=
  let first? := (tree.node? id).bind (·.children[0]?)
  (first?.filter tree.isFragment).getD id

/-! ## Growth -/

/-- The tree with a node changed. -/
def modify (tree : Tree) (id : NodeId) (change : Node → Node) : Tree :=
  ⟨tree.nodes.modify id change⟩

/-- The tree with a new node that has no place yet; its number is the former number of nodes. -/
def add (tree : Tree) (content : NodeContent) : Tree :=
  ⟨tree.nodes.push { content }⟩

/-- The number that the next node gets. -/
def nextId (tree : Tree) : NodeId :=
  tree.nodes.size

/-- The tree with a node taken from its place. -/
def detach (tree : Tree) (id : NodeId) : Tree :=
  match tree.parent? id with
  | none => tree
  | some parent =>
      (tree.modify parent fun node => { node with children := node.children.filter (· != id) })
        |>.modify id fun node => { node with parent? := none }

/-- The tree with a node moved to the end of a parent's children. -/
def append (tree : Tree) (parent child : NodeId) : Tree :=
  ((tree.detach child).modify parent fun node =>
      { node with children := node.children.push child })
    |>.modify child fun node => { node with parent? := some parent }

/-- The tree with a node moved to where it is followed by a sibling. -/
def insertBefore (tree : Tree) (sibling child : NodeId) : Tree :=
  let tree := tree.detach child
  match tree.parent? sibling with
  | none => tree
  | some parent =>
      (tree.modify parent fun node =>
          { node with
            children := node.children.flatMap fun id =>
              if id == sibling then #[child, id] else #[id] })
        |>.modify child fun node => { node with parent? := some parent }

/-- The tree with a new element that has no place yet; a template comes with its fragment. -/
def addElement (tree : Tree) (element : Element) : Tree :=
  let added := tree.add (.element element)
  if element.isHtml "template" then (added.add .fragment).append tree.nextId added.nextId
  else added

/-- The tree with a character added to a run of text. -/
def extendText (tree : Tree) (id : NodeId) (c : Char) : Tree :=
  tree.modify id fun node =>
    match node with
    | { content := .text content, parent?, children } =>
        { content := .text (content.push c), parent?, children }
    | node => node

/-- The tree with a character added at the end of a parent's children. -/
def appendChar (tree : Tree) (parent : NodeId) (c : Char) : Tree :=
  let last := (tree.node? parent).bind (·.children.back?)
  match last.filter tree.isText with
  | some id => tree.extendText id c
  | none => (tree.add (.text (String.singleton c))).append parent tree.nextId

/-- The child that comes right before a sibling. -/
def previous? (tree : Tree) (sibling : NodeId) : Option NodeId :=
  (tree.parent? sibling).bind fun parent =>
    ((tree.children parent).takeWhile (· != sibling)).getLast?

/-- The tree with a character added before a sibling. -/
def insertCharBefore (tree : Tree) (sibling : NodeId) (c : Char) : Tree :=
  match (tree.previous? sibling).filter tree.isText with
  | some id => tree.extendText id c
  | none => (tree.add (.text (String.singleton c))).insertBefore sibling tree.nextId

/-- The tree with the children of a node moved to the end of another's. -/
def moveChildren (tree : Tree) (source target : NodeId) : Tree :=
  (tree.children source).foldl (fun tree child => tree.append target child) tree

/-- The tree with an element that also has each of the attributes whose name it lacks. -/
def addAttributes (tree : Tree) (id : NodeId) (attributes : List (AttributeName × String)) :
    Tree :=
  tree.modify id fun node =>
    match node with
    | { content := .element element, parent?, children } =>
        { content := .element (element.addAttributes attributes), parent?, children }
    | node => node

end Tree

end Gleaner.Html
