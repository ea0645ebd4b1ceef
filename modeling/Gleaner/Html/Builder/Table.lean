import Gleaner.Html.Builder.Body

/-!
# Within tables

The rules for tables and their parts.  What does not belong between the parts is put before the
table, and a part ends those before it that cannot hold it.
-/

namespace Gleaner.Html.Builder

/-! ## Families of names -/

/-- The parts of tables that stand next to the groups of rows. -/
def tableParts : List String :=
  ["caption", "col", "colgroup", "tbody", "tfoot", "thead"]

/-- The groups of rows. -/
def rowGroups : List String :=
  ["tbody", "tfoot", "thead"]

/-- The elements that directly hold rows. -/
def rowHolders : List String :=
  ["tbody", "tfoot", "thead", "template", "html"]

/-- The cells. -/
def cells : List String :=
  ["td", "th"]

/-! ## Tables -/

/-- The token read by the rules of the body, with its nodes put before the table. -/
def fosterInBody (builder : Builder) (token : Token) : Step :=
  ({ builder with fosters := true }.stepInBody token).map fun builder =>
    { builder with fosters := false }

/-- The builder whose innermost element is a table, as far as it is within one. -/
def popToTable (builder : Builder) : Builder :=
  builder.popTo ["html", "table", "template"]

/-- An opening tag of a table's part, between the parts. -/
def openTablePart (builder : Builder) (tag : Tag) : Step :=
  let within := builder.popToTable
  match tag.name with
  | "caption" => .done ((within.pushMarker.openTag tag).enter .inCaption)
  | "colgroup" => .done ((within.openTag tag).enter .inColumnGroup)
  | "col" => .again ((within.openNamed "colgroup").enter .inColumnGroup)
  | "td" | "th" | "tr" => .again ((within.openNamed "tbody").enter .inTableBody)
  | _ => .done ((within.openTag tag).enter .inTableBody)

/-- An opening tag between the parts of a table. -/
def openInTable (builder : Builder) (tag : Tag) : Step :=
  let name := tag.name
  if tableParts.contains name || name == "tr" || cells.contains name then
    builder.openTablePart tag
  else if ["style", "script", "template"].contains name then .done (builder.openHeadElement tag)
  else if name == "table" then
    if builder.nameInScope boundsTable "table" then
      .again (builder.popThrough ["table"]).resetMode
    else .done builder
  else if name == "input" && isHidden tag then .done (builder.addVoid tag)
  else if name == "form" then
    if builder.hasOpen "template" || builder.form?.isSome then .done builder
    else .done { builder.addVoid tag with form? := some builder.tree.nextId }
  else builder.fosterInBody (.opening tag)

/-- A closing tag between the parts of a table. -/
def closeInTable (builder : Builder) (name : String) : Step :=
  if name == "table" then
    if builder.nameInScope boundsTable "table" then
      .done (builder.popThrough ["table"]).resetMode
    else .done builder
  else if ["body", "html", "tr"].contains name || tableParts.contains name ||
      cells.contains name then
    .done builder
  else if name == "template" then .done builder.closeTemplate
  else builder.fosterInBody (.closing name)

/-- Within a table, between its parts. -/
def stepInTable (builder : Builder) (token : Token) : Step :=
  match token with
  | .char _ =>
      if builder.isCurrentIn tableStructure then
        .again { builder with returnMode := builder.mode, mode := .inTableText, tableText := [] }
      else builder.fosterInBody token
  | .comment content => .done (builder.addComment content)
  | .opening tag => builder.openInTable tag
  | .closing name => builder.closeInTable name
  | .finish => builder.stepInBody token
  | .doctype _ | .fault => .done builder

/-- A character of the text between the parts of a table. -/
def fosterChar (builder : Builder) (c : Char) : Builder :=
  match builder.fosterInBody (.char c) with
  | .done builder => builder
  | .again builder => builder

/-- Within text between the parts of a table: white space stays there, other text does not. -/
def stepInTableText (builder : Builder) (token : Token) : Step :=
  match token with
  | .char c =>
      if c == '\x00' then .done builder
      else .done { builder with tableText := c :: builder.tableText }
  | _ =>
      let text := builder.tableText.reverse
      let builder := { builder with tableText := [], mode := builder.returnMode }
      if text.all isSpace then .again (text.foldl addChar builder)
      else .again (text.foldl fosterChar builder)

/-! ## Parts of tables -/

/-- Within a caption. -/
def stepInCaption (builder : Builder) (token : Token) : Step :=
  let closed (next : Builder → Step) : Step :=
    if builder.nameInScope boundsTable "caption" then
      next ((((builder.closeImplied impliedEnds).popThrough ["caption"]).clearFormatting).enter
        .inTable)
    else .done builder
  match token with
  | .opening tag =>
      if tableParts.contains tag.name || tag.name == "tr" || cells.contains tag.name then
        closed .again
      else builder.stepInBody token
  | .closing name =>
      if name == "caption" then closed .done
      else if name == "table" then closed .again
      else if ["body", "col", "colgroup", "html", "tr"].contains name ||
          rowGroups.contains name || cells.contains name then
        .done builder
      else builder.stepInBody token
  | _ => builder.stepInBody token

/-- Within a group of columns. -/
def stepInColumnGroup (builder : Builder) (token : Token) : Step :=
  let ended : Step :=
    if builder.isCurrent "colgroup" then .again (builder.pop.enter .inTable) else .done builder
  match token with
  | .char c => if isSpace c then .done (builder.addChar c) else ended
  | .comment content => .done (builder.addComment content)
  | .opening tag =>
      match tag.name with
      | "html" => .done (builder.mergeRoot tag)
      | "col" => .done (builder.addVoid tag)
      | "template" => .done (builder.openTemplate tag)
      | _ => ended
  | .closing name =>
      match name with
      | "colgroup" =>
          if builder.isCurrent "colgroup" then .done (builder.pop.enter .inTable)
          else .done builder
      | "col" => .done builder
      | "template" => .done builder.closeTemplate
      | _ => ended
  | .finish => builder.stepInBody token
  | .doctype _ | .fault => .done builder

/-- Within a group of rows. -/
def stepInTableBody (builder : Builder) (token : Token) : Step :=
  let within := builder.popTo rowHolders
  let ended : Step :=
    if builder.inScope boundsTable (builder.isNamedIn ["table", "tbody", "tfoot"]) then
      .again (within.pop.enter .inTable)
    else .done builder
  match token with
  | .opening tag =>
      if tag.name == "tr" then .done ((within.openTag tag).enter .inRow)
      else if cells.contains tag.name then .again ((within.openNamed "tr").enter .inRow)
      else if tableParts.contains tag.name then ended
      else builder.stepInTable token
  | .closing name =>
      if rowGroups.contains name then
        if builder.nameInScope boundsTable name then .done (within.pop.enter .inTable)
        else .done builder
      else if name == "table" then ended
      else if ["body", "caption", "col", "colgroup", "html", "td", "th", "tr"].contains name then
        .done builder
      else builder.stepInTable token
  | _ => builder.stepInTable token

/-- Within a row. -/
def stepInRow (builder : Builder) (token : Token) : Step :=
  let within := builder.popTo ["tr", "template", "html"]
  let ended (next : Builder → Step) : Step :=
    if builder.nameInScope boundsTable "tr" then next (within.pop.enter .inTableBody)
    else .done builder
  match token with
  | .opening tag =>
      if cells.contains tag.name then
        .done ((within.openTag tag).enter .inCell).pushMarker
      else if tableParts.contains tag.name || tag.name == "tr" then ended .again
      else builder.stepInTable token
  | .closing name =>
      if name == "tr" then ended .done
      else if name == "table" then ended .again
      else if rowGroups.contains name then
        if builder.nameInScope boundsTable name then ended .again else .done builder
      else if ["body", "caption", "col", "colgroup", "html", "td", "th"].contains name then
        .done builder
      else builder.stepInTable token
  | _ => builder.stepInTable token

/-- The builder with the open cell closed. -/
def closeCell (builder : Builder) : Builder :=
  (((builder.closeImplied impliedEnds).popThrough cells).clearFormatting).enter .inRow

/-- Within a cell. -/
def stepInCell (builder : Builder) (token : Token) : Step :=
  match token with
  | .opening tag =>
      if tableParts.contains tag.name || tag.name == "tr" || cells.contains tag.name then
        if builder.inScope boundsTable (builder.isNamedIn cells) then .again builder.closeCell
        else .done builder
      else builder.stepInBody token
  | .closing name =>
      if cells.contains name then
        if builder.nameInScope boundsTable name then
          .done ((((builder.closeImplied impliedEnds).popThrough [name]).clearFormatting).enter
            .inRow)
        else .done builder
      else if ["body", "caption", "col", "colgroup", "html"].contains name then .done builder
      else if tableStructure.contains name then
        if builder.nameInScope boundsTable name then .again builder.closeCell else .done builder
      else builder.stepInBody token
  | _ => builder.stepInBody token

end Gleaner.Html.Builder
