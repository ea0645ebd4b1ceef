import Gleaner.Html.Reference
import Gleaner.Html.Token.Doctype

/-!
# Reading tags

Reads the name and the attributes of a tag.  A tag that the source ends within is dropped, and
of several attributes with one name the first stands.
-/

namespace Gleaner.Html

/-- The character may begin the name of a tag. -/
def isLetter (c : Char) : Bool :=
  c.isAlpha

namespace Tag

/-- The name that the text spells, in lower case. -/
def nameOf (text : List Char) : String :=
  lowered (withoutNull text)

/-- The value that the text spells. -/
def valueOf (text : List Char) : String :=
  String.ofList (Reference.decode true (withoutNull text))

/-- The value after an equals sign, and the text after it; none where the source ends within. -/
def readValue? (text : List Char) : Option (String × List Char) :=
  match skipSpace text with
  | [] => none
  | c :: rest =>
      if c == '"' || c == '\'' then
        let inside := rest.takeWhile (· != c)
        match rest.drop inside.length with
        | [] => none
        | _ :: after => some (valueOf inside, after)
      else
        let inside := (c :: rest).takeWhile fun d => !isSpace d && d != '>'
        some (valueOf inside, (c :: rest).drop inside.length)

/-- The character ends the name of an attribute. -/
def endsName (c : Char) : Bool :=
  isSpace c || c == '/' || c == '>' || c == '='

/-- The attribute whose name begins with a character, and the text after it. -/
def readAttribute? (first : Char) (text : List Char) :
    Option ((String × String) × List Char) :=
  let more := text.takeWhile (! endsName ·)
  let name := nameOf (first :: more)
  match skipSpace (text.drop more.length) with
  | '=' :: rest => (readValue? rest).map fun (value, after) => ((name, value), after)
  | rest => some ((name, ""), rest)

/-- The attributes with one more, unless there is one of its name. -/
def addAttribute (attributes : List (String × String)) (added : String × String) :
    List (String × String) :=
  if (attributes.lookup added.1).isSome then attributes else attributes ++ [added]

/-- Reads attributes up to the end of the tag.  Each round takes a character of the text at
least, so that its length bounds the rounds. -/
def readAttributes? : Nat → Tag → List Char → Option (Tag × List Char)
  | 0, _, _ => none
  | rounds + 1, tag, text =>
      match text with
      | [] => none
      | '>' :: rest => some (tag, rest)
      | '/' :: '>' :: rest => some ({ tag with selfClosing := true }, rest)
      | c :: rest =>
          if isSpace c || c == '/' then readAttributes? rounds tag rest
          else do
            let (added, rest) ← readAttribute? c rest
            let attributes := addAttribute tag.attributes added
            readAttributes? rounds { tag with attributes := attributes } rest

/-- The tag whose opening angle bracket has been read, and the text after it. -/
def read? (text : List Char) : Option (Tag × List Char) :=
  let name := text.takeWhile fun c => !isSpace c && c != '/' && c != '>'
  readAttributes? (text.length + 1) { name := nameOf name } (text.drop name.length)

end Tag

end Gleaner.Html
