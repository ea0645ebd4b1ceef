import Gleaner.Json.Basic
import Gleaner.Text.Blank
import Gleaner.Text.Search

/-!
# Documents

A source becomes a document of one of three kinds.  Markup keeps its source beside its tree; how
trees look is left to the query backend.
-/

namespace Gleaner

/-- The kinds of documents. -/
inductive DocumentKind where
  | html
  | json
  | text
  deriving DecidableEq, Repr

namespace DocumentKind

/-- The name of the kind. -/
def name : DocumentKind → String
  | html => "html"
  | json => "json"
  | text => "text"

/-- Every kind. -/
def all : List DocumentKind :=
  [html, json, text]

/-- The kind with the name. -/
def ofName? (name : String) : Option DocumentKind :=
  all.find? (·.name == name)

/-- The source holds a closing tag. -/
def hasClosingTag (source : List Char) : Bool :=
  Text.occurs ['<', '/'] source

/-- The kind that a source looks like: braces and brackets open JSON, an angle bracket or a
closing tag anywhere shows markup, all else is text. -/
def inferChars (source : List Char) : DocumentKind :=
  match Text.trimStart source with
  | '\x7b' :: _ => json
  | '[' :: _ => json
  | '<' :: _ => html
  | _ => if hasClosingTag source then html else text

/-- The kind that a source looks like. -/
def infer (source : String) : DocumentKind :=
  inferChars source.toList

end DocumentKind

/-- A document that has been loaded, with markup trees of type `Tree`. -/
inductive Document (Tree : Type) where
  /-- Markup with its tree. -/
  | html (source : String) (tree : Tree)
  /-- A JSON value. -/
  | json (root : Json)
  /-- Plain text. -/
  | text (content : String)

namespace Document

variable {Tree : Type}

/-- The kind of a document. -/
def kind : Document Tree → DocumentKind
  | html _ _ => .html
  | json _ => .json
  | text _ => .text

/-- The raw text of a document; JSON has none. -/
def rawText? : Document Tree → Option String
  | html source _ => some source
  | json _ => none
  | text content => some content

end Document

end Gleaner
