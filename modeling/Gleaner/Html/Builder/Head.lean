import Gleaner.Html.Builder.Formatting
import Gleaner.Html.Token.Doctype

/-!
# Up to the body

The rules for what comes before the body: the document type, the root element, the head.
-/

namespace Gleaner.Html.Builder

/-- A character that is white space in markup. -/
def isSpaceToken : Token → Bool
  | .char c => isSpace c
  | _ => false

/-- Before anything else. -/
def stepInitial (builder : Builder) (token : Token) : Step :=
  match token with
  | .doctype declaration =>
      let builder := builder.addAt (.within Tree.documentId)
        (.doctype (declaration.name?.getD ""))
      .done { builder with isOld := declaration.isOld, mode := .beforeRoot }
  | .comment content => .done (builder.addCommentTo Tree.documentId content)
  | token =>
      if isSpaceToken token then .done builder
      else .again { builder with isOld := true, mode := .beforeRoot }

/-- The end tags that stand for an opening tag to come. -/
def impliesOpening (name : String) : Bool :=
  ["head", "body", "html", "br"].contains name

/-- Before the root element. -/
def stepBeforeRoot (builder : Builder) (token : Token) : Step :=
  let implied := Step.again ((builder.openRoot { name := "html" }).enter .beforeHead)
  match token with
  | .comment content => .done (builder.addCommentTo Tree.documentId content)
  | .opening tag =>
      if tag.name == "html" then .done ((builder.openRoot tag).enter .beforeHead) else implied
  | .closing name => if impliesOpening name then implied else .done builder
  | token => if isSpaceToken token then .done builder else implied

/-- Before the head. -/
def stepBeforeHead (builder : Builder) (token : Token) : Step :=
  let implied := Step.again ((builder.openHead { name := "head" }).enter .inHead)
  match token with
  | .comment content => .done (builder.addComment content)
  | .opening tag =>
      if tag.name == "html" then .done (builder.mergeRoot tag)
      else if tag.name == "head" then .done ((builder.openHead tag).enter .inHead)
      else implied
  | .closing name => if impliesOpening name then implied else .done builder
  | token => if isSpaceToken token then .done builder else implied

/-- The tag of a template asks for its content to be the inner tree of the element around it. -/
def attachesContent (tag : Tag) : Bool :=
  (tag.attribute? "shadowrootmode").any fun mode => mode == "open" || mode == "close"

/-- Opens a template.  One whose content is for the element around it leaves no element: what
follows goes right into that element. -/
def openTemplate (builder : Builder) (tag : Tag) : Builder :=
  let builder := builder.pushMarker
  let attaches := attachesContent tag && builder.stack.length != 1
  let builder := if attaches then builder else builder.openTag tag
  { builder with
    mayHaveFrames := false
    mode := .inTemplate
    templateModes := .inTemplate :: builder.templateModes }

/-- The builder without what it kept for the innermost template, in the mode that follows. -/
def leaveTemplate (builder : Builder) : Builder :=
  let builder := (builder.popThrough ["template"]).clearFormatting
  { builder with templateModes := builder.templateModes.drop 1 }.resetMode

/-- Closes a template. -/
def closeTemplate (builder : Builder) : Builder :=
  if builder.hasOpen "template" then (builder.closeImplied thoroughImpliedEnds).leaveTemplate
  else builder

/-- The elements of the head that hold nothing. -/
def headVoids : List String :=
  ["base", "basefont", "bgsound", "link", "meta"]

/-- The elements that belong into the head wherever they stand. -/
def headNames : List String :=
  headVoids ++ ["noframes", "script", "style", "template", "title"]

/-- An element of the head, by the name of its tag. -/
def openHeadElement (builder : Builder) (tag : Tag) : Builder :=
  match tag.name with
  | "title" => builder.openText tag (.referenceText tag.name)
  | "noframes" | "style" | "noscript" => builder.openText tag (.rawText tag.name)
  | "script" => builder.openText tag (.program tag.name)
  | "template" => builder.openTemplate tag
  | _ => builder.addVoid tag

/-- Within the head. -/
def stepInHead (builder : Builder) (token : Token) : Step :=
  let implied := Step.again (builder.pop.enter .afterHead)
  match token with
  | .char c => if isSpace c then .done (builder.addChar c) else implied
  | .comment content => .done (builder.addComment content)
  | .opening tag =>
      if tag.name == "html" then .done (builder.mergeRoot tag)
      else if tag.name == "head" then .done builder
      else if tag.name == "noscript" || headNames.contains tag.name then
        .done (builder.openHeadElement tag)
      else implied
  | .closing name =>
      match name with
      | "head" => .done (builder.pop.enter .afterHead)
      | "body" | "html" | "br" => implied
      | "template" => .done builder.closeTemplate
      | _ => .done builder
  | _ => implied

/-- Between head and body. -/
def stepAfterHead (builder : Builder) (token : Token) : Step :=
  let implied := Step.again ((builder.openNamed "body").enter .inBody)
  match token with
  | .char c => if isSpace c then .done (builder.addChar c) else implied
  | .comment content => .done (builder.addComment content)
  | .opening tag =>
      match tag.name with
      | "html" => .done (builder.mergeRoot tag)
      | "body" => .done ((builder.openTag tag).withoutFrames.enter .inBody)
      | "frameset" => .done ((builder.openTag tag).enter .inFrameset)
      | "head" => .done builder
      | _ =>
          match headNames.contains tag.name, builder.head? with
          | true, some head =>
              let builder := { builder with stack := head :: builder.stack }
              .done ((builder.openHeadElement tag).close head)
          | _, _ => implied
  | .closing name =>
      match name with
      | "template" => .done builder.closeTemplate
      | "body" | "html" | "br" => implied
      | _ => .done builder
  | _ => implied

end Gleaner.Html.Builder
