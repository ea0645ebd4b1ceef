import Gleaner.Html.Reference
import Gleaner.Html.Token

/-!
# Reading document types

Reads what follows `<!DOCTYPE`, and tells which declarations ask for the layout of old pages.
-/

namespace Gleaner.Html

/-- The text with a replacement for each null character. -/
def withoutNull (text : List Char) : List Char :=
  text.map fun c => if c == '\x00' then Reference.replacement else c

namespace Doctype

/-- The text after the next closing angle bracket. -/
def skipToEnd (text : List Char) : List Char :=
  (text.dropWhile (· != '>')).drop 1

/-- The declaration, marked as malformed. -/
def malformed (declaration : Doctype) : Doctype :=
  { declaration with isMalformed := true }

/-- An identifier up to the quote: its text, whether the quote was there, and the rest. -/
def readQuoted (quote : Char) (text : List Char) : String × Bool × List Char :=
  let inside := text.takeWhile fun c => c != quote && c != '>'
  let rest := text.drop inside.length
  let content := String.ofList (withoutNull inside)
  match rest with
  | c :: after => if c == quote then (content, true, after) else (content, false, rest)
  | [] => (content, false, [])

/-- The end of the declaration, before which nothing should stand. -/
def readEnd (declaration : Doctype) (text : List Char) : Doctype × List Char :=
  match skipSpace text with
  | [] => (declaration.malformed, [])
  | _ :: _ => (declaration, skipToEnd text)

/-- The system identifier and the rest of the declaration; without the keyword the identifier
may be missing. -/
def readSystemId (afterKeyword : Bool) (declaration : Doctype) (text : List Char) :
    Doctype × List Char :=
  match skipSpace text with
  | [] => (declaration.malformed, [])
  | '>' :: rest => (if afterKeyword then declaration.malformed else declaration, rest)
  | c :: rest =>
      if c == '"' || c == '\'' then
        let (content, closed, after) := readQuoted c rest
        let declaration := { declaration with systemId? := some content }
        if closed then readEnd declaration after
        else (declaration.malformed, skipToEnd after)
      else (declaration.malformed, skipToEnd rest)

/-- The public identifier and the rest of the declaration. -/
def readPublicId (declaration : Doctype) (text : List Char) : Doctype × List Char :=
  match skipSpace text with
  | [] => (declaration.malformed, [])
  | c :: rest =>
      if c == '"' || c == '\'' then
        let (content, closed, after) := readQuoted c rest
        let declaration := { declaration with publicId? := some content }
        if closed then readSystemId false declaration after
        else (declaration.malformed, skipToEnd after)
      else (declaration.malformed, skipToEnd (c :: rest))

/-- The text begins with the word, in whatever case. -/
def opensWith (word : String) (text : List Char) : Bool :=
  lowered (text.take word.length) == word

/-- What follows the name of the type. -/
def readIdentifiers (declaration : Doctype) (text : List Char) : Doctype × List Char :=
  match skipSpace text with
  | [] => (declaration.malformed, [])
  | '>' :: rest => (declaration, rest)
  | text =>
      if opensWith "public" text then readPublicId declaration (text.drop 6)
      else if opensWith "system" text then readSystemId true declaration (text.drop 6)
      else (declaration.malformed, skipToEnd text)

/-- The declaration whose keyword has been read, and the text after it. -/
def read (text : List Char) : Doctype × List Char :=
  match skipSpace text with
  | [] => (malformed {}, [])
  | '>' :: rest => (malformed {}, rest)
  | text =>
      let name := text.takeWhile fun c => !isSpace c && c != '>'
      readIdentifiers { name? := some (lowered (withoutNull name)) } (text.drop name.length)

/-- The owners of old document types, with what their types are called. -/
def oldTypes : List (String × List String) :=
  [("advasoft ltd", ["html 3.0 aswedit + extensions"]),
    ("as", ["html 3.0 aswedit + extensions"]),
    ("ietf",
      ["html 2.0 level 1", "html 2.0 level 2", "html 2.0 strict level 1",
        "html 2.0 strict level 2", "html 2.0 strict", "html 2.0", "html 2.1e", "html 3.0",
        "html 3.2 final", "html 3.2", "html 3", "html level 0", "html level 1", "html level 2",
        "html level 3", "html strict level 0", "html strict level 1", "html strict level 2",
        "html strict level 3", "html strict", "html"]),
    ("metrius", ["metrius presentational"]),
    ("microsoft",
      ["internet explorer 2.0 html strict", "internet explorer 2.0 html",
        "internet explorer 2.0 tables", "internet explorer 3.0 html strict",
        "internet explorer 3.0 html", "internet explorer 3.0 tables"]),
    ("netscape comm. corp.", ["html", "strict html"]),
    ("o'reilly and associates", ["html 2.0", "html extended 1.0", "html extended relaxed 1.0"]),
    ("softquad software", ["hotmetal pro 6.0::19990601::extensions to html 4.0"]),
    ("softquad", ["hotmetal pro 4.0::19971010::extensions to html 4.0"]),
    ("spyglass", ["html 2.0 extended"]),
    ("sq", ["html 2.0 hotmetal + extensions"]),
    ("sun microsystems corp.", ["hotjava html", "hotjava strict html"]),
    ("w3c",
      ["html 3 1995-03-24", "html 3.2 draft", "html 3.2 final", "html 3.2", "html 3.2s draft",
        "html 4.0 frameset", "html 4.0 transitional", "html experimental 19960712",
        "html experimental 970421", "w3 html"]),
    ("w3o", ["w3 html 3.0"]),
    ("webtechs", ["mozilla html 2.0", "mozilla html"])]

/-- How a public identifier begins, by the owner and the name of the type. -/
def publicIdStart (owner name : String) : String :=
  "-//" ++ owner ++ "//dtd " ++ name ++ "//"

/-- How the public identifiers of old document types begin. -/
def oldPublicIdStarts : List String :=
  oldTypes.flatMap fun (owner, names) => names.map (publicIdStart owner)

/-- The public identifiers of old document types that are known as a whole. -/
def oldPublicIds : List String :=
  ["-//w3o//dtd w3 html strict 3.0//en//", "-/w3c/dtd html 4.0 transitional/en", "html"]

/-- The system identifier of an old document type, which is an address. -/
def oldSystemId : String :=
  "/".intercalate ["http:", "", "www.ibm.com", "data", "dtd", "v11",
    "ibmxhtml1-transitional.dtd"]

/-- How the public identifiers begin whose types are old unless a system identifier is given. -/
def openPublicIdStarts : List String :=
  ["html 4.01 frameset", "html 4.01 transitional"].map (publicIdStart "w3c")

/-- The public identifier names an old document type. -/
def hasOldPublicId (declaration : Doctype) : Bool :=
  declaration.publicId?.any fun id =>
    let id := lowered id.toList
    oldPublicIds.contains id || oldPublicIdStarts.any (·.isPrefixOf id) ||
      (declaration.systemId?.isNone && openPublicIdStarts.any (·.isPrefixOf id))

/-- The system identifier names an old document type. -/
def hasOldSystemId (declaration : Doctype) : Bool :=
  declaration.systemId?.any fun id => lowered id.toList == oldSystemId

/-- The document is laid out as old pages are. -/
def isOld (declaration : Doctype) : Bool :=
  declaration.isMalformed || declaration.name? != some "html" || declaration.hasOldPublicId ||
    declaration.hasOldSystemId

end Doctype

end Gleaner.Html
