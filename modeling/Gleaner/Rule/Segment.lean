import Gleaner.Rule.Error
import Gleaner.Rule.Escape
import Gleaner.Text.Blank
import Gleaner.Text.Bytes
import Gleaner.Text.Search

/-!
# Segments of a rule

A rule is cut into the texts of its terms.  A combinator with one space on either side cuts only
where the opening of a term follows it; anywhere else it belongs to the text around it.  A
literal that ends in a colon keeps the space in front of a following `&&`.
-/

namespace Gleaner.Rule

/-- What stands between two terms. -/
inductive Combinator where
  /-- The values of the two terms are joined. -/
  | and
  /-- The term after it starts another chain. -/
  | or
  deriving DecidableEq, Repr

/-- The characters of a combinator without the spaces around it. -/
def Combinator.mark : Combinator → List Char
  | and => ['&', '&']
  | or => ['|', '|']

/-- The characters of a combinator with the spaces around it. -/
def Combinator.token (combinator : Combinator) : List Char :=
  ' ' :: combinator.mark ++ [' ']

/-- The text starts with a combinator, with no regard to what follows. -/
def startsWithMark : List Char → Bool
  | '&' :: '&' :: _ => true
  | '|' :: '|' :: _ => true
  | _ => false

/-- The character may stand in the name between `@` and `:`. -/
def isTagChar (c : Char) : Bool :=
  c.isAlphanum || c == '_'

/-- The text starts with `@`, a name and `:`, whether or not a family goes by the name. -/
def opensTerm : List Char → Bool
  | '@' :: rest =>
      ! (rest.takeWhile isTagChar).isEmpty && (rest.dropWhile isTagChar).head? == some ':'
  | _ => false

/-- Nothing can stand between a combinator and this text. -/
def isDangling (rest : List Char) : Bool :=
  rest.isEmpty || startsWithMark rest

/-- A text cut at its combinators: the first piece, and each further piece with the combinator
in front of it. -/
structure Cuts where
  /-- The text up to the first cut. -/
  first : List Char
  /-- The combinator of each cut, and the text up to the next one. -/
  more : List (Combinator × List Char)
  deriving DecidableEq

namespace Cuts

/-- The cuts of the text with one more character in front. -/
def cons (c : Char) (cuts : Cuts) : Cuts :=
  { cuts with first := c :: cuts.first }

/-- The cuts of the text with one more cut in front. -/
def cut (combinator : Combinator) (cuts : Cuts) : Cuts where
  first := []
  more := (combinator, cuts.first) :: cuts.more

end Cuts

/-- Cuts a text at its combinators; the error is the byte offset of the first dangling one. -/
def cuts : List Char → Except Nat Cuts
  | [] => .ok { first := [], more := [] }
  | ' ' :: '&' :: '&' :: ' ' :: rest =>
      if isDangling rest then .error 1
      else if opensTerm rest then shifted 4 ((cuts rest).map (Cuts.cut .and))
      else shifted 1 ((cuts ('&' :: '&' :: ' ' :: rest)).map (Cuts.cons ' '))
  | ' ' :: '|' :: '|' :: ' ' :: rest =>
      if isDangling rest then .error 1
      else if opensTerm rest then shifted 4 ((cuts rest).map (Cuts.cut .or))
      else shifted 1 ((cuts ('|' :: '|' :: ' ' :: rest)).map (Cuts.cons ' '))
  | c :: rest => shifted c.utf8Size ((cuts rest).map (Cuts.cons c))
where
  /-- The same result for a text with `bytes` more bytes in front. -/
  shifted (bytes : Nat) : Except Nat Cuts → Except Nat Cuts
    | .ok cuts => .ok cuts
    | .error offset => .error (bytes + offset)

/-- The text is a literal that ends in a colon and is not narrowed. -/
def isLabel (segment : List Char) : Bool :=
  let tag := SelectorKind.text.tag.toList
  tag.isPrefixOf segment &&
    match splitSanitizer (segment.drop tag.length) with
    | (literal, none) => literal.getLast? == some ':' || literal.getLast? == some '：'
    | (_, some _) => false

/-- The text of a segment that a combinator follows: a label keeps the space before `&&`. -/
def beforeCombinator (combinator : Combinator) (segment : List Char) : List Char :=
  if combinator == .and && isLabel segment then segment ++ [' '] else segment

/-- The text of one term, and where it stands in the rule. -/
structure Segment where
  /-- What the term is read from. -/
  text : List Char
  /-- Number of bytes in front of it. -/
  offset : Nat
  deriving DecidableEq

/-- The segments of the chain that starts with `first`, and those of the chains after it; `offset`
bytes stand in front of them. -/
def chainsFrom (offset : Nat) (first : List Char) :
    List (Combinator × List Char) → List Segment × List (List Segment)
  | [] => ([{ text := first, offset }], [])
  | (combinator, next) :: more =>
      let start := offset + Text.byteLength (first ++ combinator.token)
      let (chain, chains) := chainsFrom start next more
      let segment := { text := beforeCombinator combinator first, offset }
      match combinator with
      | .and => (segment :: chain, chains)
      | .or => ([segment], chain :: chains)

/-- The segments of each chain. -/
def Cuts.chains (cuts : Cuts) : List (List Segment) :=
  let (chain, chains) := chainsFrom 0 cuts.first cuts.more
  chain :: chains

/-- A rule starts with a combinator that has a term only on its right. -/
def startsDangling (text : List Char) : Bool :=
  startsWithMark text ||
    match text with
    | ' ' :: rest => startsWithMark rest && rest[2]? == some ' ' && opensTerm (rest.drop 3)
    | _ => false

/-- Cuts a rule into the segments of its chains. -/
def segments (text : List Char) : Except RuleError (List (List Segment)) :=
  if (Text.trim text).isEmpty then .error .emptyRule
  else if startsDangling text then .error (.danglingCombinator 0)
  else match cuts text with
    | .ok cuts => .ok cuts.chains
    | .error offset => .error (.danglingCombinator offset)

end Gleaner.Rule
