/-!
# Tokens of markup

Markup is read as a sequence of tokens: tags, comments, a document type, and characters.  Faults
in the text are tokens too, as a builder has to know where a token is the first one after another.
-/

namespace Gleaner.Html

/-- An opening tag. -/
structure Tag where
  /-- The name, in lower case. -/
  name : String
  /-- Names, in lower case, and values of the attributes. -/
  attributes : List (String × String) := []
  /-- The tag ends with a slash. -/
  selfClosing : Bool := false
  deriving DecidableEq, Repr

namespace Tag

/-- The value of an attribute. -/
def attribute? (tag : Tag) (name : String) : Option String :=
  tag.attributes.lookup name

/-- The two tags have the same name and, in whatever order, the same attributes. -/
def agrees (left right : Tag) : Bool :=
  left.name == right.name && left.attributes.length == right.attributes.length &&
    left.attributes.all fun own => right.attributes.contains own

end Tag

/-- A document type declaration. -/
structure Doctype where
  /-- The name of the type, in lower case. -/
  name? : Option String := none
  /-- The public identifier. -/
  publicId? : Option String := none
  /-- The system identifier. -/
  systemId? : Option String := none
  /-- The declaration is too malformed to be relied on. -/
  isMalformed : Bool := false
  deriving DecidableEq, Repr

/-- A token. -/
inductive Token where
  /-- A document type declaration. -/
  | doctype (declaration : Doctype)
  /-- An opening tag. -/
  | opening (tag : Tag)
  /-- A closing tag; its attributes do not matter. -/
  | closing (name : String)
  /-- A comment. -/
  | comment (content : String)
  /-- A character of the text. -/
  | char (c : Char)
  /-- Something malformed, which leaves nothing. -/
  | fault
  /-- The end of the source. -/
  | finish
  deriving DecidableEq, Repr

/-- How the text after a tag is read. -/
inductive ContentModel where
  /-- Tags, comments, references and text. -/
  | markup
  /-- Text with references up to the closing tag of the name. -/
  | referenceText (name : String)
  /-- Text up to the closing tag of the name. -/
  | rawText (name : String)
  /-- A program up to the closing tag of the name. -/
  | program (name : String)
  /-- Text up to the end. -/
  | plain
  deriving DecidableEq, Repr

/-- The characters that separate the parts of a tag. -/
def isSpace (c : Char) : Bool :=
  c == ' ' || c == '\n' || c == '\t' || c == '\r' || c == '\x0c'

/-- The text after its leading space. -/
def skipSpace (text : List Char) : List Char :=
  text.dropWhile isSpace

/-- The string with its ASCII letters in lower case. -/
def lowered (text : List Char) : String :=
  String.ofList (text.map Char.toLower)

end Gleaner.Html
