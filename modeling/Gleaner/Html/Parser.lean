import Gleaner.Html.Builder.Rules
import Gleaner.Html.Token.Reader

/-!
# Reading documents

Reads a source as a document.  Every source has a tree, with a root element, a head, and a body
or a set of frames.
-/

namespace Gleaner.Html

/-- The text with one form of line end. -/
def withLineFeeds : List Char → List Char
  | [] => []
  | '\r' :: '\n' :: rest => '\n' :: withLineFeeds rest
  | c :: rest => (if c == '\r' then '\n' else c) :: withLineFeeds rest

/-- The text without a byte order mark at its start. -/
def withoutMark : List Char → List Char
  | [] => []
  | c :: rest => if c.toNat == 0xFEFF then rest else c :: rest

/-- The text after what a content model has read; where a program ends, the text starts anew. -/
def resumed (content : ContentModel) (rest : List Char) : List Char :=
  match content with
  | .program _ => withoutMark rest
  | _ => rest

namespace Builder

/-- The builder after the text.  Each round takes a character at least. -/
def read : Nat → Builder → List Char → Builder
  | 0, builder, _ => builder
  | rounds + 1, builder, text =>
      if text.isEmpty then builder.accept .finish
      else
        let (tokens, rest) := Token.read builder.content builder.isInForeign text
        read rounds (tokens.foldl accept builder) (resumed builder.content rest)

end Builder

/-- The tree of a source. -/
def parse (source : String) : Tree :=
  let text := withLineFeeds (withoutMark source.toList)
  (Builder.read (text.length + 1) {} text).tree

end Gleaner.Html
