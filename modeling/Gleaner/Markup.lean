import Gleaner.Css.Selector.Match
import Gleaner.Css.Selector.Parser
import Gleaner.Html.Parser
import Gleaner.Html.Tree.Printer
import Gleaner.Query

/-!
# Querying markup

The query backend for HTML: selectors find elements of the tree of a source, and an attribute is
read from each.
-/

namespace Gleaner

/-- What is read of an element; an element may lack a named attribute. -/
def Attribute.read? (reading : Attribute) (tree : Html.Tree) (id : Html.NodeId) : Option String :=
  match reading with
  | .text => some (tree.text id)
  | .html => some (tree.innerMarkup id)
  | .named name => (tree.element? id).bind (·.attribute? name)

/-- What is read of each element that a list of selectors matches. -/
def queryMarkup (tree : Html.Tree) (selector : String) (reading : Attribute) :
    Except QueryError (List (Option String)) :=
  match Css.Selector.parseList selector with
  | .ok selectors => .ok ((Css.select tree selectors).map (reading.read? tree))
  | .error error => .error (.invalidSelector selector error.message)

/-- Loads HTML and selects elements of it. -/
def markupBackend : MarkupBackend Html.Tree where
  load := Html.parse
  queryAll := queryMarkup

/-- The backends for HTML and JSON paths. -/
def standardBackends : Backends Html.Tree where
  markup := markupBackend
  path := jsonPathBackend

end Gleaner
