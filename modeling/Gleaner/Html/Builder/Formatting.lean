import Gleaner.Html.Builder.Placement

/-!
# Formatting

Formatting elements go on across the ends of the blocks that they were opened in: they are opened
again where text follows, and an end tag in the midst of blocks splits them.
-/

namespace Gleaner.Html.Builder

/-- The formatting since the last marker. -/
def recentFormatting (builder : Builder) : List FormattingEntry :=
  builder.formatting.takeWhile (· != .marker)

/-- The entry is of the element. -/
def isEntryOf (id : NodeId) : FormattingEntry → Bool
  | .marker => false
  | .element other _ => other == id

/-- The element is formatting that goes on. -/
def isFormatting (builder : Builder) (id : NodeId) : Bool :=
  builder.formatting.any (isEntryOf id)

/-- The builder whose formatting does not go on with the element. -/
def dropFormatting (builder : Builder) (id : NodeId) : Builder :=
  { builder with formatting := builder.formatting.filter (! isEntryOf id ·) }

/-- The builder with a marker. -/
def pushMarker (builder : Builder) : Builder :=
  { builder with formatting := .marker :: builder.formatting }

/-- The builder whose formatting ends at the last marker. -/
def clearFormatting (builder : Builder) : Builder :=
  { builder with formatting := (builder.formatting.dropWhile (· != .marker)).drop 1 }

/-- The builder with the element of a tag open and formatting that goes on. -/
def pushFormatting (builder : Builder) (tag : Tag) : Builder :=
  let id := builder.tree.nextId
  let builder := builder.openTag tag
  { builder with formatting := .element id tag :: builder.formatting }

/-- The entry is of an element that has been closed. -/
def isClosedEntry (builder : Builder) : FormattingEntry → Bool
  | .marker => false
  | .element id _ => !builder.stack.contains id

/-- The builder with the entry's element made anew. -/
def reopen (builder : Builder) : FormattingEntry → Builder
  | .marker => builder
  | .element _ tag => builder.pushFormatting tag

/-- The builder with the formatting that goes on open again. -/
def reconstruct (builder : Builder) : Builder :=
  let closed := builder.formatting.takeWhile builder.isClosedEntry
  let kept := builder.formatting.drop closed.length
  closed.reverse.foldl reopen { builder with formatting := kept }

/-- The entry is of a tag like the given one. -/
def isEntryLike (tag : Tag) : FormattingEntry → Bool
  | .marker => false
  | .element _ other => tag.agrees other

/-- The builder with the element of a tag open as formatting; of equal entries no more than three
go on. -/
def openFormatting (builder : Builder) (tag : Tag) : Builder :=
  let recent := builder.recentFormatting
  let older := builder.formatting.drop recent.length
  let recent :=
    if 3 ≤ recent.countP (isEntryLike tag) then (recent.reverse.eraseP (isEntryLike tag)).reverse
    else recent
  ({ builder with formatting := recent ++ older }).pushFormatting tag

/-! ## Splitting -/

/-- A split in progress: the part of the tree that has been cut off so far. -/
structure Cut where
  /-- The builder. -/
  builder : Builder
  /-- The outermost node of what has been cut off. -/
  last : NodeId
  /-- The innermost copy of a formatting element, if one has been made. -/
  copy? : Option NodeId := none

/-- The builder in which a copy takes the place of an open formatting element. -/
def substitute (builder : Builder) (id copy : NodeId) (tag : Tag) : Builder :=
  { builder with
    stack := builder.stack.map fun node => if node == id then copy else node
    formatting := builder.formatting.map fun entry =>
      if isEntryOf id entry then .element copy tag else entry }

/-- The tag of an element that is formatting. -/
def formattingTag? (builder : Builder) (id : NodeId) : Option Tag :=
  builder.formatting.findSome? fun
    | .marker => none
    | .element other tag => if other == id then some tag else none

/-- Cuts through the open elements between the block and the formatting element, innermost
first.  The first three of them that are formatting are copied around what has been cut off. -/
def cutBetween : Nat → List NodeId → Cut → Cut
  | _, [], cut => cut
  | count, id :: outer, cut =>
      match cut.builder.formattingTag? id with
      | none => cutBetween (count + 1) outer { cut with builder := cut.builder.close id }
      | some tag =>
          if 3 ≤ count then
            cutBetween (count + 1) outer
              { cut with builder := (cut.builder.close id).dropFormatting id }
          else
            let copy := cut.builder.tree.nextId
            let builder := cut.builder.substitute id copy tag
            let tree := (builder.tree.addElement (.ofTag tag)).append copy cut.last
            cutBetween (count + 1) outer
              { builder := { builder with tree }
                last := copy
                copy? := some (cut.copy?.getD copy) }

/-- The formatting in which a new entry takes the place of an element's, or comes right after the
entry of a copy. -/
def placeEntry (formatting : List FormattingEntry) (id : NodeId) (copy? : Option NodeId)
    (entry : FormattingEntry) : List FormattingEntry :=
  match copy? with
  | none => formatting.map fun other => if isEntryOf id other then entry else other
  | some copy =>
      (formatting.flatMap fun other =>
        if isEntryOf copy other then [entry, other] else [other]).filter (! isEntryOf id ·)

/-- The builder in which the formatting element `id` is split around a block that is open within:
the block moves out of it, and its content goes into a new formatting element. -/
def splitAround (builder : Builder) (id block : NodeId) (tag : Tag) : Builder :=
  let outside := (builder.stack.dropWhile (· != id)).drop 1
  let between := ((builder.stack.dropWhile (· != block)).drop 1).takeWhile (· != id)
  let cut := cutBetween 0 between { builder, last := block }
  let builder := cut.builder
  let target := builder.placeIn (outside.head?.getD Tree.documentId)
  let copy := builder.tree.nextId
  let tree := (builder.tree.detach cut.last).put cut.last target
  let tree := tree.addElement (.ofTag tag)
  let tree := (tree.moveChildren block copy).append block copy
  { builder with
    tree
    stack := (builder.stack.filter (· != id)).flatMap fun node =>
      if node == block then [copy, node] else [node]
    formatting := placeEntry builder.formatting id cut.copy? (.element copy tag) }

/-- One round of closing the formatting element of the name. -/
def splitOnce (builder : Builder) (name : String) : Step :=
  let found := builder.recentFormatting.findSome? fun
    | .marker => none
    | .element id tag => if tag.name == name then some (id, tag) else none
  match found with
  | none => .done (builder.closeAny name)
  | some (id, tag) =>
      if !builder.stack.contains id then .done (builder.dropFormatting id)
      else if !builder.inScope boundsScope (· == id) then .done builder
      else
        let inside := builder.stack.takeWhile (· != id)
        match inside.reverse.find? (builder.isNamedIn specials) with
        | none => .done ((builder.closeThrough id).dropFormatting id)
        | some block => .again (builder.splitAround id block tag)

/-- Closes the formatting element of the name, in a number of rounds at most. -/
def splitRounds (name : String) : Nat → Builder → Builder
  | 0, builder => builder
  | rounds + 1, builder =>
      match builder.splitOnce name with
      | .done builder => builder
      | .again builder => splitRounds name rounds builder

/-- The builder after the end tag of a formatting element. -/
def closeFormatting (builder : Builder) (name : String) : Builder :=
  match builder.stack with
  | [] => builder
  | current :: _ =>
      if builder.isNamed name current && !builder.isFormatting current then builder.pop
      else splitRounds name 8 builder

end Gleaner.Html.Builder
