import Gleaner.Html.Token

/-!
# Elements

An element has a name in one of three vocabularies and attributes in increasing order of their
names.
-/

namespace Gleaner.Html

/-- The vocabularies of element names. -/
inductive Vocabulary where
  | html
  | mathml
  | svg
  deriving DecidableEq, Repr

/-- What qualifies the name of an attribute. -/
inductive Qualifier where
  /-- Nothing. -/
  | plain
  /-- The attribute declares the vocabulary of its element. -/
  | declaration
  /-- The attribute is one of a link. -/
  | xlink
  /-- The attribute is one of every document. -/
  | xml
  /-- The attribute declares a vocabulary for names within its element. -/
  | xmlns
  deriving DecidableEq, Repr

namespace Qualifier

/-- Attributes of lower rank come first. -/
def rank : Qualifier → Nat
  | plain => 0
  | declaration => 1
  | xlink => 2
  | xml => 3
  | xmlns => 4

/-- What is written before the name. -/
def written : Qualifier → String
  | plain | declaration => ""
  | xlink => "xlink:"
  | xml => "xml:"
  | xmlns => "xmlns:"

end Qualifier

/-- The name of an attribute. -/
structure AttributeName where
  /-- What qualifies it. -/
  qualifier : Qualifier
  /-- The name itself. -/
  name : String
  deriving DecidableEq, Repr

namespace AttributeName

/-- The name comes before the other. -/
def precedes (left right : AttributeName) : Bool :=
  left.qualifier.rank < right.qualifier.rank ||
    (left.qualifier.rank == right.qualifier.rank && decide (left.name < right.name))

/-- The name as it is written. -/
def written (name : AttributeName) : String :=
  name.qualifier.written ++ name.name

end AttributeName

/-- An element of a document. -/
structure Element where
  /-- The vocabulary of its name. -/
  vocabulary : Vocabulary
  /-- Its name. -/
  name : String
  /-- Names and values of its attributes, in increasing order of the names. -/
  attributes : List (AttributeName × String)
  deriving DecidableEq, Repr

namespace Element

/-- The attributes with one more, unless there is one of its name. -/
def insertAttribute (name : AttributeName) (value : String) :
    List (AttributeName × String) → List (AttributeName × String)
  | [] => [(name, value)]
  | (other, kept) :: rest =>
      if name.precedes other then (name, value) :: (other, kept) :: rest
      else if name = other then (other, kept) :: rest
      else (other, kept) :: insertAttribute name value rest

/-- The element with each of the attributes whose name it lacks. -/
def addAttributes (element : Element) (attributes : List (AttributeName × String)) : Element :=
  { element with
    attributes := attributes.foldl (fun all (name, value) => insertAttribute name value all)
      element.attributes }

/-- The attributes of a tag, none of which is qualified. -/
def plainAttributes (tag : Tag) : List (AttributeName × String) :=
  tag.attributes.map fun (name, value) => (⟨.plain, name⟩, value)

/-- The element of a vocabulary with the attributes. -/
def ofAttributes (vocabulary : Vocabulary) (name : String)
    (attributes : List (AttributeName × String)) : Element :=
  addAttributes ⟨vocabulary, name, []⟩ attributes

/-- The element that a tag makes. -/
def ofTag (tag : Tag) : Element :=
  ofAttributes .html tag.name (plainAttributes tag)

/-- The value of the attribute of an unqualified name. -/
def attribute? (element : Element) (name : String) : Option String :=
  element.attributes.lookup ⟨.plain, name⟩

/-- The element has the name in the vocabulary of HTML. -/
def isHtml (name : String) (element : Element) : Bool :=
  element.vocabulary == .html && element.name == name

/-- The element has one of the names in the vocabulary of HTML. -/
def isHtmlIn (names : List String) (element : Element) : Bool :=
  element.vocabulary == .html && names.contains element.name

end Element

end Gleaner.Html
