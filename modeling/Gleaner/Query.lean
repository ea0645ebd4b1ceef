import Gleaner.Json.Path.Report
import Gleaner.Rule.Basic

/-!
# Query backends

Markup and JSON are queried through backends, so that the evaluation of rules depends on neither
the form of trees nor the language of paths.
-/

namespace Gleaner

/-- Why a backend refuses a query. -/
inductive QueryError where
  /-- The selector list is malformed. -/
  | invalidSelector (selector reason : String)
  /-- The path is malformed. -/
  | invalidPath (path reason : String)
  deriving DecidableEq, Repr

namespace QueryError

/-- The wording of the error up to where a malformed selector list is explained. -/
def headline : QueryError → String
  | invalidSelector selector _ => "invalid css selector '" ++ selector ++ "': "
  | invalidPath path reason => "invalid json path '" ++ path ++ "': " ++ reason

/-- The wording of the error. -/
def message (error : QueryError) : String :=
  match error with
  | invalidSelector _ reason => error.headline ++ reason
  | invalidPath _ _ => error.headline

end QueryError

/-- Loads markup into trees and selects elements from them. -/
structure MarkupBackend (Tree : Type) where
  /-- The tree of a source. -/
  load : String → Tree
  /-- The attribute of each element that a selector list matches, in the order of the elements;
  an element without the attribute gives `none`. -/
  queryAll : Tree → String → Attribute → Except QueryError (List (Option String))

/-- Finds the values that a path leads to. -/
structure PathBackend where
  /-- The values that a path leads to from a root, in order. -/
  evaluate : Json → String → Except QueryError (List Json)

/-- The backends of an engine. -/
structure Backends (Tree : Type) where
  /-- Queries markup. -/
  markup : MarkupBackend Tree
  /-- Queries JSON. -/
  path : PathBackend

/-- The path that a string spells. -/
def Json.Path.compile (text : String) : Except QueryError Json.Path :=
  match Json.Path.parse text with
  | .ok path => .ok path
  | .error bad => .error (.invalidPath text bad.report)

/-- Finds values by JSON paths. -/
def jsonPathBackend : PathBackend where
  evaluate root text := (Json.Path.compile text).map fun path => path.select root

end Gleaner
