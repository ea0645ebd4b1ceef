import Gleaner.Html.Builder.Foreign
import Gleaner.Html.Builder.Head

/-!
# Within the body

The rules for the body.  They are also the rules for most of what stands in the parts of a table,
in templates, and after the body.
-/

namespace Gleaner.Html.Builder

/-! ## Families of names -/

/-- Blocks that a paragraph does not hold. -/
def blocks : List String :=
  ["address", "article", "aside", "blockquote", "center", "details", "dialog", "dir", "div", "dl",
    "fieldset", "figcaption", "figure", "footer", "header", "hgroup", "main", "menu", "nav", "ol",
    "p", "search", "section", "summary", "ul"]

/-- The elements whose end tags close what is open within them. -/
def closableBlocks : List String :=
  blocks.erase "p" ++ ["button", "listing", "pre"]

/-- Formatting elements of which one may stand in another of its kind. -/
def formattingNames : List String :=
  ["b", "big", "code", "em", "font", "i", "s", "small", "strike", "strong", "tt", "u"]

/-- The elements within which formatting starts anew. -/
def embeddings : List String :=
  ["applet", "marquee", "object"]

/-- Elements without content that stand in the text. -/
def inlineVoids : List String :=
  ["area", "br", "embed", "img", "keygen", "wbr", "input"]

/-- Elements without content that belong to the element around them. -/
def partVoids : List String :=
  ["param", "source", "track"]

/-- The parts of tables and documents that have no place in the body. -/
def misplaced : List String :=
  ["caption", "col", "colgroup", "frame", "head", "tbody", "td", "tfoot", "th", "thead", "tr"]

/-! ## Opening tags -/

/-- The tag of a field that is not shown. -/
def isHidden (tag : Tag) : Bool :=
  (tag.attribute? "type").any fun kind => lowered kind.toList == "hidden"

/-- A second body: its attributes go to the first. -/
def mergeBody (builder : Builder) (tag : Tag) : Builder :=
  match builder.body? with
  | some body =>
      if builder.hasOpen "template" then builder
      else
        { builder.withoutFrames with
          tree := builder.tree.addAttributes body (Element.plainAttributes tag) }
  | none => builder

/-- A set of frames takes the place of a body that holds nothing. -/
def replaceBody (builder : Builder) (tag : Tag) : Builder :=
  match builder.body? with
  | some body =>
      if builder.mayHaveFrames then
        let builder :=
          { builder with
            tree := builder.tree.detach body
            stack := builder.root?.toList }
        (builder.openTag tag).enter .inFrameset
      else builder
  | none => builder

/-- The names of the items that the item of a name ends. -/
def itemsEndedBy (name : String) : List String :=
  if name == "li" then ["li"] else ["dd", "dt"]

/-- Opens an item of a list, which ends the one before it. -/
def openItem (builder : Builder) (tag : Tag) : Builder :=
  let builder := builder.withoutFrames
  let ended := itemsEndedBy tag.name
  let stops := specials.filter (! ["address", "div", "p"].contains ·)
  let found := builder.stack.find? fun id =>
    builder.isNamedIn ended id || builder.isNamedIn stops id
  let builder :=
    match found with
    | some id =>
        if builder.isNamedIn ended id then
          let name := (builder.elementOf id).name
          (builder.closeImpliedExcept name).popThrough [name]
        else builder
    | none => builder
  builder.closeOpenParagraph.openTag tag

/-- Opens a form, unless one is open. -/
def openForm (builder : Builder) (tag : Tag) : Builder :=
  let inTemplate := builder.hasOpen "template"
  if builder.form?.isSome && !inTemplate then builder
  else
    let builder := builder.closeOpenParagraph
    let opened := builder.openTag tag
    if inTemplate then opened else { opened with form? := some builder.tree.nextId }

/-- Opens a button, which ends the one that is open. -/
def openButton (builder : Builder) (tag : Tag) : Builder :=
  let builder :=
    if builder.nameInScope boundsScope "button" then
      (builder.closeImplied impliedEnds).popThrough ["button"]
    else builder
  (builder.reconstruct.openTag tag).withoutFrames

/-- Opens a link, which ends the one that goes on. -/
def openLink (builder : Builder) (tag : Tag) : Builder :=
  let former := builder.recentFormatting.findSome? fun
    | .marker => none
    | .element id _ => if builder.isNamed "a" id then some id else none
  let builder :=
    match former with
    | some id => ((builder.closeFormatting "a").dropFormatting id).close id
    | none => builder
  builder.reconstruct.openFormatting tag

/-- Opens text that may not be broken, which ends the one that is open. -/
def openUnbroken (builder : Builder) (tag : Tag) : Builder :=
  let builder := builder.reconstruct
  let builder :=
    if builder.nameInScope boundsScope "nobr" then
      (builder.closeFormatting "nobr").reconstruct
    else builder
  builder.openFormatting tag

/-- Opens a choice of options. -/
def openSelect (builder : Builder) (tag : Tag) : Builder :=
  let inTable := [Mode.inTable, .inCaption, .inTableBody, .inRow, .inCell].contains builder.mode
  (builder.reconstruct.openTag tag).withoutFrames.enter
    (if inTable then .inSelectInTable else .inSelect)

/-- Opens an annotation of a text, which ends those before it. -/
def openAnnotation (builder : Builder) (tag : Tag) : Builder :=
  let builder :=
    if !builder.nameInScope boundsScope "ruby" then builder
    else if ["rb", "rtc"].contains tag.name then builder.closeImplied impliedEnds
    else builder.closeImpliedExcept "rtc"
  builder.openTag tag

/-- Opens preformatted text, where a line end at the start does not count. -/
def openPreformatted (builder : Builder) (tag : Tag) : Builder :=
  { (builder.closeOpenParagraph.openTag tag).withoutFrames with dropsLineEnd := true }

/-- Opens a heading, which ends the heading that is open. -/
def openHeading (builder : Builder) (tag : Tag) : Builder :=
  let builder := builder.closeOpenParagraph
  (if builder.isCurrentIn headings then builder.pop else builder).openTag tag

/-- Adds an element without content to the text. -/
def addInlineVoid (builder : Builder) (tag : Tag) : Builder :=
  let added := builder.reconstruct.addVoid tag
  if tag.name == "input" && isHidden tag then added else added.withoutFrames

/-- Opens an element of the body that stands for itself, by the name of its tag. -/
def openNamedInBody (builder : Builder) (tag : Tag) : Builder :=
  match tag.name with
  | "form" => builder.openForm tag
  | "li" | "dd" | "dt" => builder.openItem tag
  | "pre" | "listing" => builder.openPreformatted tag
  | "plaintext" => { builder.closeOpenParagraph.openTag tag with content := .plain }
  | "button" => builder.openButton tag
  | "a" => builder.openLink tag
  | "nobr" => builder.openUnbroken tag
  | "table" =>
      let builder := if builder.isOld then builder else builder.closeOpenParagraph
      (builder.openTag tag).withoutFrames.enter .inTable
  | "hr" => (builder.closeOpenParagraph.addVoid tag).withoutFrames
  | "image" => builder.addInlineVoid { tag with name := "img" }
  | "textarea" =>
      { builder.withoutFrames.openText tag (.referenceText tag.name) with dropsLineEnd := true }
  | "xmp" => builder.closeOpenParagraph.reconstruct.withoutFrames.openText tag (.rawText tag.name)
  | "iframe" => builder.withoutFrames.openText tag (.rawText tag.name)
  | "noembed" | "noscript" => builder.openText tag (.rawText tag.name)
  | "select" => builder.openSelect tag
  | "optgroup" | "option" =>
      (if builder.isCurrent "option" then builder.pop else builder).reconstruct.openTag tag
  | "rb" | "rtc" | "rp" | "rt" => builder.openAnnotation tag
  | "math" => builder.reconstruct.openForeign .mathml tag.name tag
  | "svg" => builder.reconstruct.openForeign .svg tag.name tag
  | _ => builder.reconstruct.openTag tag

/-- An opening tag in the body. -/
def openInBody (builder : Builder) (tag : Tag) : Builder :=
  let name := tag.name
  if name == "html" then builder.mergeRoot tag
  else if headNames.contains name then builder.openHeadElement tag
  else if name == "body" then builder.mergeBody tag
  else if name == "frameset" then builder.replaceBody tag
  else if blocks.contains name then builder.closeOpenParagraph.openTag tag
  else if headings.contains name then builder.openHeading tag
  else if formattingNames.contains name then builder.reconstruct.openFormatting tag
  else if embeddings.contains name then
    (builder.reconstruct.openTag tag).pushMarker.withoutFrames
  else if inlineVoids.contains name then builder.addInlineVoid tag
  else if partVoids.contains name then builder.addVoid tag
  else if misplaced.contains name then builder
  else builder.openNamedInBody tag

/-! ## Closing tags -/

/-- Closes the innermost element of the name in scope, with what may be left open. -/
def closeInScope (builder : Builder) (bounds : Element → Bool) (name : String) : Builder :=
  if builder.nameInScope bounds name then
    (builder.closeImplied impliedEnds).popThrough [name]
  else builder

/-- Closes an item of a list. -/
def closeItem (builder : Builder) (name : String) : Builder :=
  if builder.nameInScope (if name == "li" then boundsItems else boundsScope) name then
    (builder.closeImpliedExcept name).popThrough [name]
  else builder

/-- Closes a form. -/
def closeForm (builder : Builder) : Builder :=
  if builder.hasOpen "template" then builder.closeInScope boundsScope "form"
  else
    let former := builder.form?
    let builder := { builder with form? := none }
    match former with
    | some form =>
        if builder.inScope boundsScope (· == form) then
          (builder.closeImplied impliedEnds).close form
        else builder
    | none => builder

/-- Closes a paragraph, or makes an empty one. -/
def endParagraph (builder : Builder) : Builder :=
  if builder.nameInScope boundsParagraphs "p" then builder.closeParagraph
  else (builder.openNamed "p").closeParagraph

/-- Closes a heading, of whatever level. -/
def closeHeading (builder : Builder) : Builder :=
  if builder.inScope boundsScope (builder.isNamedIn headings) then
    (builder.closeImplied impliedEnds).popThrough headings
  else builder

/-- Closes an element within which formatting has started anew. -/
def closeEmbedding (builder : Builder) (name : String) : Builder :=
  if builder.nameInScope boundsScope name then
    ((builder.closeImplied impliedEnds).popThrough [name]).clearFormatting
  else builder

/-- A closing tag in the body that leaves the mode as it is. -/
def closeInBody (builder : Builder) (name : String) : Builder :=
  if closableBlocks.contains name then builder.closeInScope boundsScope name
  else if headings.contains name then builder.closeHeading
  else if formattingNames.contains name then builder.closeFormatting name
  else if embeddings.contains name then builder.closeEmbedding name
  else
    match name with
    | "template" => builder.closeTemplate
    | "form" => builder.closeForm
    | "p" => builder.endParagraph
    | "li" | "dd" | "dt" => builder.closeItem name
    | "a" | "nobr" => builder.closeFormatting name
    | "br" => builder.addInlineVoid { name }
    | _ => builder.closeAny name

/-! ## The mode -/

/-- The end of the source within templates closes them one by one. -/
def finishTemplate (builder : Builder) : Step :=
  if builder.hasOpen "template" then .again builder.leaveTemplate else .done builder

/-- Within the body. -/
def stepInBody (builder : Builder) (token : Token) : Step :=
  match token with
  | .char c =>
      if c == '\x00' then .done builder
      else
        let builder := builder.reconstruct
        .done ((if isSpace c then builder else builder.withoutFrames).addChar c)
  | .comment content => .done (builder.addComment content)
  | .opening tag => .done (builder.openInBody tag)
  | .closing name =>
      if name == "body" || name == "html" then
        if builder.nameInScope boundsScope "body" then
          let builder := builder.enter .afterBody
          if name == "html" then .again builder else .done builder
        else .done builder
      else .done (builder.closeInBody name)
  | .finish => if builder.templateModes.isEmpty then .done builder else builder.finishTemplate
  | .doctype _ | .fault => .done builder

end Gleaner.Html.Builder
