import Gleaner.Html.Tree

/-!
# Building trees

A builder takes the tokens of a source one after the other.  It keeps the elements that are open,
the formatting that goes on across them, and the mode that says which rules the next token is
under.
-/

namespace Gleaner.Html

/-- The modes of a builder. -/
inductive Mode where
  /-- Nothing has been read. -/
  | initial
  /-- The root element is to come. -/
  | beforeRoot
  /-- The head is to come. -/
  | beforeHead
  /-- Within the head. -/
  | inHead
  /-- Between head and body. -/
  | afterHead
  /-- Within the body. -/
  | inBody
  /-- Within an element that holds only text. -/
  | inText
  /-- Within a table, outside of its parts. -/
  | inTable
  /-- Within text that stands between the parts of a table. -/
  | inTableText
  /-- Within the caption of a table. -/
  | inCaption
  /-- Within a group of columns. -/
  | inColumnGroup
  /-- Within a group of rows. -/
  | inTableBody
  /-- Within a row. -/
  | inRow
  /-- Within a cell. -/
  | inCell
  /-- Within a choice of options. -/
  | inSelect
  /-- Within a choice of options inside of a table. -/
  | inSelectInTable
  /-- Within a template. -/
  | inTemplate
  /-- After the body. -/
  | afterBody
  /-- Within a set of frames. -/
  | inFrameset
  /-- After a set of frames. -/
  | afterFrameset
  /-- After the root element. -/
  | afterRoot
  /-- After the root element of a set of frames. -/
  | afterFramesetRoot
  deriving DecidableEq, Repr

/-- An entry of the formatting that goes on. -/
inductive FormattingEntry where
  /-- Formatting does not go on across here. -/
  | marker
  /-- The element that the tag has made. -/
  | element (id : NodeId) (tag : Tag)
  deriving DecidableEq, Repr

/-- A builder of a tree. -/
structure Builder where
  /-- The tree so far. -/
  tree : Tree := .empty
  /-- The mode. -/
  mode : Mode := .initial
  /-- The mode to which text returns. -/
  returnMode : Mode := .initial
  /-- The modes of the open templates, innermost first. -/
  templateModes : List Mode := []
  /-- The text between parts of a table that waits for its place, last first. -/
  tableText : List Char := []
  /-- The document is laid out as old pages are. -/
  isOld : Bool := false
  /-- The open elements, innermost first. -/
  stack : List NodeId := []
  /-- The formatting that goes on, last first. -/
  formatting : List FormattingEntry := []
  /-- The head. -/
  head? : Option NodeId := none
  /-- The form that is open. -/
  form? : Option NodeId := none
  /-- The body may still turn out to be a set of frames. -/
  mayHaveFrames : Bool := true
  /-- A line end at the start of the next token is to be dropped. -/
  dropsLineEnd : Bool := false
  /-- What does not belong into a table is put before it. -/
  fosters : Bool := false
  /-- How the source is read on. -/
  content : ContentModel := .markup
  deriving Repr

/-- What a rule has made of a token. -/
inductive Step where
  /-- The token is dealt with. -/
  | done (builder : Builder)
  /-- The token goes through the rules of the builder's mode again. -/
  | again (builder : Builder)

namespace Step

/-- The step with its builder changed. -/
def map (change : Builder → Builder) : Step → Step
  | done builder => done (change builder)
  | again builder => again (change builder)

end Step

namespace Builder

/-! ## Open elements -/

/-- The element of a number; a node that is no element counts as one without a name. -/
def elementOf (builder : Builder) (id : NodeId) : Element :=
  (builder.tree.element? id).getD ⟨.html, "", []⟩

/-- The open element of a number has the name. -/
def isNamed (builder : Builder) (name : String) (id : NodeId) : Bool :=
  (builder.elementOf id).isHtml name

/-- The open element of a number has one of the names. -/
def isNamedIn (builder : Builder) (names : List String) (id : NodeId) : Bool :=
  (builder.elementOf id).isHtmlIn names

/-- The innermost open element has the name. -/
def isCurrent (builder : Builder) (name : String) : Bool :=
  builder.stack.head?.any (builder.isNamed name)

/-- The innermost open element has one of the names. -/
def isCurrentIn (builder : Builder) (names : List String) : Bool :=
  builder.stack.head?.any (builder.isNamedIn names)

/-- An element of the name is open. -/
def hasOpen (builder : Builder) (name : String) : Bool :=
  builder.stack.any (builder.isNamed name)

/-- The root element. -/
def root? (builder : Builder) : Option NodeId :=
  builder.stack.getLast?

/-- The body, if it is open right within the root. -/
def body? (builder : Builder) : Option NodeId :=
  (builder.stack.dropLast.getLast?).filter (builder.isNamed "body")

/-- The builder with the innermost element closed. -/
def pop (builder : Builder) : Builder :=
  { builder with stack := builder.stack.drop 1 }

/-- The builder with the element closed, wherever it is open. -/
def close (builder : Builder) (id : NodeId) : Builder :=
  { builder with stack := builder.stack.filter (· != id) }

/-- The builder with the element closed and all that is open within. -/
def closeThrough (builder : Builder) (id : NodeId) : Builder :=
  { builder with stack := (builder.stack.dropWhile (· != id)).drop 1 }

/-- The builder with elements closed up to and including the innermost of the names. -/
def popThrough (builder : Builder) (names : List String) : Builder :=
  { builder with
    stack := (builder.stack.dropWhile (! builder.isNamedIn names ·)).drop 1 }

/-- The builder with elements closed up to the innermost of the names. -/
def popTo (builder : Builder) (names : List String) : Builder :=
  { builder with stack := builder.stack.dropWhile (! builder.isNamedIn names ·) }

/-- The builder in the mode. -/
def enter (builder : Builder) (mode : Mode) : Builder :=
  { builder with mode }

/-- The builder whose body is not going to be a set of frames. -/
def withoutFrames (builder : Builder) : Builder :=
  { builder with mayHaveFrames := false }

/-! ## Families of names -/

/-- The elements whose end tags may be left out anywhere. -/
def impliedEnds : List String :=
  ["dd", "dt", "li", "option", "optgroup", "p", "rb", "rp", "rt", "rtc"]

/-- The elements whose end tags a template closes too. -/
def thoroughImpliedEnds : List String :=
  impliedEnds ++ ["caption", "colgroup", "tbody", "td", "tfoot", "th", "thead", "tr"]

/-- The headings. -/
def headings : List String :=
  ["h1", "h2", "h3", "h4", "h5", "h6"]

/-- The elements across which stray end tags do not reach. -/
def specials : List String :=
  ["address", "applet", "area", "article", "aside", "base", "basefont", "bgsound", "blockquote",
    "body", "br", "button", "caption", "center", "col", "colgroup", "dd", "details", "dir", "div",
    "dl", "dt", "embed", "fieldset", "figcaption", "figure", "footer", "form", "frame",
    "frameset", "h1", "h2", "h3", "h4", "h5", "h6", "head", "header", "hgroup", "hr", "html",
    "iframe", "img", "input", "isindex", "li", "link", "listing", "main", "marquee", "menu",
    "meta", "nav", "noembed", "noframes", "noscript", "object", "ol", "p", "param", "plaintext",
    "pre", "script", "search", "section", "select", "source", "style", "summary", "table",
    "tbody", "td", "template", "textarea", "tfoot", "th", "thead", "title", "tr", "track", "ul",
    "wbr", "xmp"]

/-- The elements of a table between which only its parts may stand. -/
def tableStructure : List String :=
  ["table", "tbody", "tfoot", "thead", "tr"]

/-! ## Scopes -/

/-- Text stands in the element as it does in HTML. -/
def isTextPoint (element : Element) : Bool :=
  element.vocabulary == .mathml && ["mi", "mo", "mn", "ms", "mtext"].contains element.name

/-- HTML stands in the element of a drawing. -/
def isMarkupPoint (element : Element) : Bool :=
  element.vocabulary == .svg && ["foreignObject", "desc", "title"].contains element.name

/-- The element bounds the scope of most end tags. -/
def boundsScope (element : Element) : Bool :=
  element.isHtmlIn
    ["applet", "caption", "html", "table", "td", "th", "marquee", "object", "template"] ||
    isTextPoint element || isMarkupPoint element

/-- The element bounds the scope of list items. -/
def boundsItems (element : Element) : Bool :=
  element.isHtmlIn ["ol", "ul"] || boundsScope element

/-- The element bounds the scope of paragraphs. -/
def boundsParagraphs (element : Element) : Bool :=
  element.isHtml "button" || boundsScope element

/-- The element bounds the scope of the parts of a table. -/
def boundsTable (element : Element) : Bool :=
  element.isHtmlIn ["html", "table", "template"]

/-- The element bounds the scope of a choice of options. -/
def boundsSelect (element : Element) : Bool :=
  !element.isHtmlIn ["optgroup", "option"]

/-- The list has a number that passes the test before the first that bounds the search. -/
def occursBefore (bounds test : NodeId → Bool) : List NodeId → Bool
  | [] => false
  | id :: rest => test id || (!bounds id && occursBefore bounds test rest)

/-- An open element within the bounds passes the test. -/
def inScope (builder : Builder) (bounds : Element → Bool) (test : NodeId → Bool) : Bool :=
  occursBefore (fun id => bounds (builder.elementOf id)) test builder.stack

/-- An element of the name is open within the bounds. -/
def nameInScope (builder : Builder) (bounds : Element → Bool) (name : String) : Bool :=
  builder.inScope bounds (builder.isNamed name)

/-! ## Implied ends -/

/-- The builder with elements closed as long as the innermost has one of the names. -/
def closeImplied (builder : Builder) (names : List String) : Builder :=
  { builder with stack := builder.stack.dropWhile (builder.isNamedIn names) }

/-- The builder with elements closed whose end tags may be left out, up to one of the name. -/
def closeImpliedExcept (builder : Builder) (name : String) : Builder :=
  builder.closeImplied (impliedEnds.erase name)

/-- The builder with the open paragraph closed. -/
def closeParagraph (builder : Builder) : Builder :=
  (builder.closeImpliedExcept "p").popThrough ["p"]

/-- The builder with a paragraph closed, if one is open here. -/
def closeOpenParagraph (builder : Builder) : Builder :=
  if builder.nameInScope boundsParagraphs "p" then builder.closeParagraph else builder

/-- The builder with the innermost element of the name closed, unless a special element stands in
between. -/
def closeAny (builder : Builder) (name : String) : Builder :=
  match builder.stack.find? fun id => builder.isNamed name id || builder.isNamedIn specials id with
  | none => builder
  | some id => if builder.isNamed name id then builder.closeThrough id else builder

/-! ## Modes -/

/-- The mode that the open elements ask for. -/
def modeOf (builder : Builder) : List NodeId → Mode
  | [] => .inBody
  | id :: outer =>
      let element := builder.elementOf id
      let isLast := outer.isEmpty
      if element.vocabulary != .html then builder.modeOf outer
      else
        match element.name with
        | "select" =>
            match outer.find? (builder.isNamedIn ["template", "table"]) with
            | some id => if builder.isNamed "table" id then .inSelectInTable else .inSelect
            | none => .inSelect
        | "td" | "th" => if isLast then .inBody else .inCell
        | "tr" => .inRow
        | "tbody" | "thead" | "tfoot" => .inTableBody
        | "caption" => .inCaption
        | "colgroup" => .inColumnGroup
        | "table" => .inTable
        | "template" => builder.templateModes.headD .inBody
        | "head" => if isLast then .inBody else .inHead
        | "body" => .inBody
        | "frameset" => .inFrameset
        | "html" => if builder.head?.isNone then .beforeHead else .afterHead
        | _ => builder.modeOf outer

/-- The builder in the mode that its open elements ask for. -/
def resetMode (builder : Builder) : Builder :=
  builder.enter (builder.modeOf builder.stack)

end Builder

end Gleaner.Html
