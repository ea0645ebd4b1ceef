import Gleaner.Html.Tree

/-!
# Printing trees

The text of an element, and its content written as markup again.
-/

namespace Gleaner.Html.Tree

/-- No path from a node downwards has more nodes than the tree. -/
def depthBound (tree : Tree) : Nat :=
  tree.nodes.size + 1

/-- The text within a node, down to a depth. -/
def textWithin (tree : Tree) : Nat → NodeId → String
  | 0, _ => ""
  | depth + 1, id =>
      match tree.node? id with
      | some { content := .text content, .. } => content
      | _ => String.join ((tree.children id).map (tree.textWithin depth))

/-- The text of every run within a node, joined. -/
def text (tree : Tree) (id : NodeId) : String :=
  tree.textWithin tree.depthBound id

/-- How a character is written in text or in the value of an attribute. -/
def escapeChar (inAttribute : Bool) (c : Char) : String :=
  if c == '&' then "&amp;"
  else if c == Char.ofNat 0xA0 then "&nbsp;"
  else if inAttribute && c == '"' then "&quot;"
  else if !inAttribute && c == '<' then "&lt;"
  else if !inAttribute && c == '>' then "&gt;"
  else String.singleton c

/-- The string with its special characters written as references. -/
def escape (inAttribute : Bool) (content : String) : String :=
  String.join (content.toList.map (escapeChar inAttribute))

/-- The elements that hold no content. -/
def voidNames : List String :=
  ["area", "base", "basefont", "bgsound", "br", "col", "embed", "frame", "hr", "img", "input",
    "keygen", "link", "meta", "param", "source", "track", "wbr"]

/-- The elements whose text is written as it is. -/
def rawTextNames : List String :=
  ["style", "script", "xmp", "iframe", "noembed", "noframes", "plaintext"]

/-- The opening tag of an element. -/
def openingTag (element : Element) : String :=
  "<" ++ element.name ++
    String.join (element.attributes.map fun (name, value) =>
      " " ++ name.written ++ "=\"" ++ escape true value ++ "\"") ++ ">"

/-- A node written as markup, down to a depth; `isRaw` says that text is written as it is. -/
def markupWithin (tree : Tree) : Nat → Bool → NodeId → String
  | 0, _, _ => ""
  | depth + 1, isRaw, id =>
      match (tree.node? id).map Node.content with
      | none | some .document => ""
      | some (.doctype name) => "<!DOCTYPE " ++ name ++ ">"
      | some (.text content) => if isRaw then content else escape false content
      | some (.comment content) => "<!--" ++ content ++ "-->"
      | some .fragment =>
          String.join ((tree.children id).map (tree.markupWithin depth isRaw))
      | some (.element element) =>
          if element.isHtmlIn voidNames then openingTag element
          else
            openingTag element ++
              String.join ((tree.children id).map
                (tree.markupWithin depth (element.isHtmlIn rawTextNames))) ++
              "</" ++ element.name ++ ">"

/-- The content of an element written as markup. -/
def innerMarkup (tree : Tree) (id : NodeId) : String :=
  String.join ((tree.children id).map (tree.markupWithin tree.depthBound false))

end Gleaner.Html.Tree
