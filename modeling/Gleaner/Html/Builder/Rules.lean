import Gleaner.Html.Builder.Table

/-!
# The rules of each mode

The rules for choices of options, templates, sets of frames and what comes after the body, and
the choice of rules by mode.
-/

namespace Gleaner.Html.Builder

/-! ## Choices of options -/

/-- The builder with an open option closed. -/
def closeOption (builder : Builder) : Builder :=
  if builder.isCurrent "option" then builder.pop else builder

/-- The builder with an open option closed, and an open group of options. -/
def closeOptions (builder : Builder) : Builder :=
  let builder := builder.closeOption
  if builder.isCurrent "optgroup" then builder.pop else builder

/-- The builder with the choice of options closed. -/
def closeSelect (builder : Builder) : Builder :=
  (builder.popThrough ["select"]).resetMode

/-- An opening tag in a choice of options. -/
def openInSelect (builder : Builder) (tag : Tag) : Step :=
  let inScope := builder.nameInScope boundsSelect "select"
  match tag.name with
  | "html" => .done (builder.mergeRoot tag)
  | "option" => .done (builder.closeOption.openTag tag)
  | "optgroup" => .done (builder.closeOptions.openTag tag)
  | "hr" => .done (builder.closeOptions.addVoid tag)
  | "select" => .done (if inScope then builder.closeSelect else builder)
  | "input" | "keygen" | "textarea" =>
      if inScope then .again builder.closeSelect else .done builder
  | "script" | "template" => .done (builder.openHeadElement tag)
  | _ => .done builder

/-- A closing tag in a choice of options. -/
def closeInSelect (builder : Builder) (name : String) : Builder :=
  match name with
  | "optgroup" =>
      let inGroup := (builder.stack.drop 1).head?.any (builder.isNamed "optgroup")
      let builder := if inGroup then builder.closeOption else builder
      if builder.isCurrent "optgroup" then builder.pop else builder
  | "option" => builder.closeOption
  | "select" =>
      if builder.nameInScope boundsSelect "select" then builder.closeSelect else builder
  | "template" => builder.closeTemplate
  | _ => builder

/-- Within a choice of options. -/
def stepInSelect (builder : Builder) (token : Token) : Step :=
  match token with
  | .char c => .done (if c == '\x00' then builder else builder.addChar c)
  | .comment content => .done (builder.addComment content)
  | .opening tag => builder.openInSelect tag
  | .closing name => .done (builder.closeInSelect name)
  | .finish => builder.stepInBody token
  | .doctype _ | .fault => .done builder

/-- The elements of a table that end a choice of options in it. -/
def selectEnders : List String :=
  ["caption", "table", "tbody", "tfoot", "thead", "tr", "td", "th"]

/-- Within a choice of options in a table. -/
def stepInSelectInTable (builder : Builder) (token : Token) : Step :=
  match token with
  | .opening tag =>
      if selectEnders.contains tag.name then .again builder.closeSelect
      else builder.stepInSelect token
  | .closing name =>
      if selectEnders.contains name then
        if builder.nameInScope boundsTable name then .again builder.closeSelect
        else .done builder
      else builder.stepInSelect token
  | _ => builder.stepInSelect token

/-! ## Templates -/

/-- The mode in which the content of a template goes on after the tag. -/
def templateMode (name : String) : Mode :=
  if name == "col" then .inColumnGroup
  else if tableParts.contains name then .inTable
  else if name == "tr" then .inTableBody
  else if cells.contains name then .inRow
  else .inBody

/-- Within a template. -/
def stepInTemplate (builder : Builder) (token : Token) : Step :=
  match token with
  | .char c => if c == '\x00' then .done builder else builder.stepInBody token
  | .comment _ => builder.stepInBody token
  | .opening tag =>
      if headNames.contains tag.name then .done (builder.openHeadElement tag)
      else
        let mode := templateMode tag.name
        .again { builder with mode, templateModes := mode :: builder.templateModes.drop 1 }
  | .closing name => .done (if name == "template" then builder.closeTemplate else builder)
  | .finish => builder.finishTemplate
  | .doctype _ | .fault => .done builder

/-! ## Sets of frames -/

/-- Within a set of frames. -/
def stepInFrameset (builder : Builder) (token : Token) : Step :=
  match token with
  | .char c => .done (if isSpace c then builder.addChar c else builder)
  | .comment content => .done (builder.addComment content)
  | .opening tag =>
      match tag.name with
      | "html" => .done (builder.mergeRoot tag)
      | "frameset" => .done (builder.openTag tag)
      | "frame" => .done (builder.addVoid tag)
      | "noframes" => .done (builder.openHeadElement tag)
      | _ => .done builder
  | .closing name =>
      if name == "frameset" && builder.stack.length != 1 then
        let builder := builder.pop
        .done (if builder.isCurrent "frameset" then builder else builder.enter .afterFrameset)
      else .done builder
  | _ => .done builder

/-- After a set of frames. -/
def stepAfterFrameset (builder : Builder) (token : Token) : Step :=
  match token with
  | .char c => .done (if isSpace c then builder.addChar c else builder)
  | .comment content => .done (builder.addComment content)
  | .opening tag =>
      match tag.name with
      | "html" => .done (builder.mergeRoot tag)
      | "noframes" => .done (builder.openHeadElement tag)
      | _ => .done builder
  | .closing name =>
      .done (if name == "html" then builder.enter .afterFramesetRoot else builder)
  | _ => .done builder

/-- After the root element of a set of frames. -/
def stepAfterFramesetRoot (builder : Builder) (token : Token) : Step :=
  match token with
  | .char c => if isSpace c then builder.stepInBody token else .done builder
  | .comment content => .done (builder.addCommentTo Tree.documentId content)
  | .opening tag =>
      match tag.name with
      | "html" => .done (builder.mergeRoot tag)
      | "noframes" => .done (builder.openHeadElement tag)
      | _ => .done builder
  | _ => .done builder

/-! ## After the body -/

/-- After the body or the root element; whatever has no place there goes into the body. -/
def stepAfter (builder : Builder) (commentParent : NodeId) (token : Token) : Step :=
  match token with
  | .char c =>
      if isSpace c then builder.stepInBody token else .again (builder.enter .inBody)
  | .comment content => .done (builder.addCommentTo commentParent content)
  | .opening tag =>
      if tag.name == "html" then .done (builder.mergeRoot tag)
      else .again (builder.enter .inBody)
  | .closing name =>
      if name == "html" && builder.mode == .afterBody then .done (builder.enter .afterRoot)
      else .again (builder.enter .inBody)
  | .finish => .done builder
  | .doctype _ | .fault => .done builder

/-! ## Every mode -/

/-- Within an element that holds only text. -/
def stepInText (builder : Builder) (token : Token) : Step :=
  match token with
  | .char c => .done (builder.addChar c)
  | .finish => .again (builder.pop.enter builder.returnMode)
  | .closing _ => .done { builder.pop.enter builder.returnMode with content := .markup }
  | _ => .done builder

/-- The rules of the mode. -/
def stepHtml (builder : Builder) (token : Token) : Step :=
  match builder.mode with
  | .initial => builder.stepInitial token
  | .beforeRoot => builder.stepBeforeRoot token
  | .beforeHead => builder.stepBeforeHead token
  | .inHead => builder.stepInHead token
  | .afterHead => builder.stepAfterHead token
  | .inBody => builder.stepInBody token
  | .inText => builder.stepInText token
  | .inTable => builder.stepInTable token
  | .inTableText => builder.stepInTableText token
  | .inCaption => builder.stepInCaption token
  | .inColumnGroup => builder.stepInColumnGroup token
  | .inTableBody => builder.stepInTableBody token
  | .inRow => builder.stepInRow token
  | .inCell => builder.stepInCell token
  | .inSelect => builder.stepInSelect token
  | .inSelectInTable => builder.stepInSelectInTable token
  | .inTemplate => builder.stepInTemplate token
  | .afterBody => builder.stepAfter (builder.root?.getD Tree.documentId) token
  | .inFrameset => builder.stepInFrameset token
  | .afterFrameset => builder.stepAfterFrameset token
  | .afterRoot => builder.stepAfter Tree.documentId token
  | .afterFramesetRoot => builder.stepAfterFramesetRoot token

/-- The rules that the token is under. -/
def step (builder : Builder) (token : Token) : Step :=
  if builder.isForeign token then stepForeign stepHtml builder token
  else builder.stepHtml token

/-- The builder after the token has gone through rules a number of times at most. -/
def settle : Nat → Builder → Token → Builder
  | 0, builder, _ => builder
  | rounds + 1, builder, token =>
      match builder.step token with
      | .done builder => builder
      | .again builder => settle rounds builder token

/-- A bound on how often a token goes through rules: each time an element is closed, or one of a
few modes is left for good. -/
def roundBound (builder : Builder) : Nat :=
  2 * builder.stack.length + 40

/-- The builder does not take the token into account: a line end that is to be dropped, a document
type that comes too late, or a fault. -/
def ignores (builder : Builder) : Token → Bool
  | .char c => builder.dropsLineEnd && c == '\n'
  | .doctype _ => builder.mode != .initial
  | .fault => true
  | _ => false

/-- The builder after a token. -/
def accept (builder : Builder) (token : Token) : Builder :=
  let heeds := !builder.ignores token
  let builder := { builder with dropsLineEnd := false }
  if heeds then settle builder.roundBound builder token else builder

end Gleaner.Html.Builder
