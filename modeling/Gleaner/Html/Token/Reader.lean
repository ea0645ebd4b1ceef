import Gleaner.Html.Token.Tag

/-!
# Reading tokens

Reads the tokens at the start of a text, as the content model asks.  No text is refused: what
makes no tag or comment is text.
-/

namespace Gleaner.Html.Token

/-- The token of each character. -/
def ofChars (text : List Char) : List Token :=
  text.map char

/-- The tokens of a text with references.  A reference that lacks its semicolon is a fault. -/
def ofText (text : List Char) : List Token :=
  (Reference.pieces false text).flatMap fun piece =>
    if piece.isOpen then fault :: ofChars piece.meaning else ofChars piece.meaning

/-- The text up to `-->` or `--!>`, and the text after it.  Where neither comes, dashes that might
have begun one are dropped. -/
def splitComment : List Char → List Char × List Char
  | [] => ([], [])
  | ['-'] => ([], [])
  | ['-', '-'] => ([], [])
  | ['-', '-', '!'] => ([], [])
  | '-' :: '-' :: '>' :: rest => ([], rest)
  | '-' :: '-' :: '!' :: '>' :: rest => ([], rest)
  | c :: rest =>
      let (content, after) := splitComment rest
      (c :: content, after)

/-- The comment with the content. -/
def commentOf (content : List Char) : Token :=
  comment (String.ofList (withoutNull content))

/-- The comment that `<!--` opens, and the text after it. -/
def readComment : List Char → List Token × List Char
  | '>' :: rest => ([commentOf []], rest)
  | '-' :: '>' :: rest => ([commentOf []], rest)
  | text =>
      let (content, after) := splitComment text
      ([commentOf content], after)

/-- What stands where a comment or a tag cannot: it makes a comment up to the next bracket. -/
def readStray (text : List Char) : List Token × List Char :=
  let content := text.takeWhile (· != '>')
  ([commentOf content], text.drop (content.length + 1))

/-- The text up to `]]>`, and the text after it. -/
def splitSection : List Char → List Char × List Char
  | [] => ([], [])
  | ']' :: ']' :: '>' :: rest => ([], rest)
  | c :: rest =>
      let (content, after) := splitSection rest
      (c :: content, after)

/-- What `<!` opens.  Character sections are known only within foreign elements. -/
def readDeclaration (inForeign : Bool) (text : List Char) : List Token × List Char :=
  match text with
  | '-' :: '-' :: rest => readComment rest
  | text =>
      if Doctype.opensWith "doctype" text then
        let (declaration, after) := Doctype.read (text.drop 7)
        ([doctype declaration], after)
      else if inForeign && "[CDATA[".toList.isPrefixOf text then
        let (content, after) := splitSection (text.drop 7)
        (ofChars content, after)
      else readStray text

/-- What `</` opens. -/
def readClosing (text : List Char) : List Token × List Char :=
  match text with
  | [] => (ofChars ['<', '/'], [])
  | '>' :: rest => ([fault], rest)
  | c :: rest =>
      if isLetter c then
        match Tag.read? (c :: rest) with
        | some (tag, after) => ([closing tag.name], after)
        | none => ([], [])
      else readStray (c :: rest)

/-- What an opening angle bracket opens. -/
def readBracket (inForeign : Bool) (text : List Char) : List Token × List Char :=
  match text with
  | '!' :: rest => readDeclaration inForeign rest
  | '/' :: rest => readClosing rest
  | '?' :: rest => readStray ('?' :: rest)
  | c :: rest =>
      if isLetter c then
        match Tag.read? (c :: rest) with
        | some (tag, after) => ([opening tag], after)
        | none => ([], [])
      else ([char '<'], c :: rest)
  | [] => ([char '<'], [])

/-- Reads markup. -/
def readMarkup (inForeign : Bool) : List Char → List Token × List Char
  | '<' :: rest => readBracket inForeign rest
  | text =>
      let content := text.takeWhile (· != '<')
      (ofText content, text.drop content.length)

/-- After `<` the text goes on with the closing tag of the name. -/
def closes (name : String) : List Char → Bool
  | '/' :: rest =>
      lowered (rest.take name.length) == name &&
        (rest.drop name.length).head?.any fun c => isSpace c || c == '/' || c == '>'
  | _ => false

/-- The text up to the closing tag of the name, and the text from there. -/
def splitClosing (name : String) : List Char → List Char × List Char
  | [] => ([], [])
  | c :: rest =>
      if c == '<' && closes name rest then ([], c :: rest)
      else
        let (content, after) := splitClosing name rest
        (c :: content, after)

/-- Where in a program the text stands. -/
inductive ProgramState where
  /-- Outside of comments. -/
  | code
  /-- Within a comment, after so many dashes. -/
  | hidden (dashes : Nat)
  /-- Within a program inside the comment, after so many dashes. -/
  | nested (dashes : Nat)

namespace ProgramState

/-- The state after one more character that opens nothing. -/
def after (c : Char) : ProgramState → ProgramState
  | code => code
  | hidden dashes =>
      if c == '-' then hidden (dashes + 1)
      else if c == '>' && 2 ≤ dashes then code
      else hidden 0
  | nested dashes =>
      if c == '-' then nested (dashes + 1)
      else if c == '>' && 2 ≤ dashes then code
      else nested 0

end ProgramState

/-- The text goes on with the name `script` and what ends the name of a tag. -/
def namesProgram (text : List Char) : Bool :=
  closes "script" ('/' :: text)

/-- Number of characters of the name `script` and what ends it. -/
def programNameLength : Nat :=
  "script".length + 1

/-- The program up to its closing tag, and the text from there.  The first `taken` characters
belong to what has been recognised already. -/
def splitProgram (name : String) :
    Nat → ProgramState → List Char → List Char × List Char
  | _, _, [] => ([], [])
  | taken + 1, state, c :: rest =>
      let (content, after) := splitProgram name taken state rest
      (c :: content, after)
  | 0, state, c :: rest =>
      let continued (taken : Nat) (state : ProgramState) :=
        let (content, after) := splitProgram name taken state rest
        (c :: content, after)
      if c != '<' then continued 0 (state.after c)
      else
        match state with
        | .code =>
            if closes name rest then ([], c :: rest)
            else if "!--".toList.isPrefixOf rest then continued 3 (.hidden 2)
            else continued 0 .code
        | .hidden _ =>
            if closes name rest then ([], c :: rest)
            else if namesProgram rest then continued programNameLength (.nested 0)
            else continued 0 (.hidden 0)
        | .nested _ =>
            if closes "script" rest then continued (programNameLength + 1) (.hidden 0)
            else continued 0 (.nested 0)

/-- The tokens of text whose closing tag follows it. -/
def withClosing (content : List Token) (text : List Char) : List Token × List Char :=
  let (last, after) := readClosing (text.drop 2)
  if text.isEmpty then (content, []) else (content ++ last, after)

/-- The first tokens of a text that is not empty, and the text after them. -/
def read (model : ContentModel) (inForeign : Bool) (text : List Char) :
    List Token × List Char :=
  match model with
  | .markup => readMarkup inForeign text
  | .referenceText name =>
      let (content, after) := splitClosing name text
      withClosing (ofText (withoutNull content)) after
  | .rawText name =>
      let (content, after) := splitClosing name text
      withClosing (ofChars (withoutNull content)) after
  | .program name =>
      let (content, after) := splitProgram name 0 .code text
      withClosing (ofChars (withoutNull content)) after
  | .plain => (ofChars (withoutNull text), [])

end Gleaner.Html.Token
