import Gleaner.Rule.Segment

/-!
# Rules from text

Reads each segment of a rule as a term: the tag names the family, the text after the last
separator is the narrowing pattern, and the rest is the selector.
-/

namespace Gleaner

namespace Rule

/-- The family that the text starts with, and the text after its tag. -/
def splitTag? (segment : List Char) : Option (SelectorKind × List Char) :=
  SelectorKind.all.findSome? fun kind =>
    let tag := kind.tag.toList
    if tag.isPrefixOf segment then some (kind, segment.drop tag.length) else none

/-- The text starts with a combinator and the spaces around it. -/
def startsSpaced (text : List Char) : Bool :=
  Combinator.and.token.isPrefixOf text || Combinator.or.token.isPrefixOf text

/-- A combinator stands outside quotes; `quote` is the open quotation mark, if there is one. -/
def spacedOutside (quote : Option Char) : List Char → Bool
  | [] => false
  | c :: rest =>
      match quote with
      | some mark => spacedOutside (if c == mark then none else some mark) rest
      | none =>
          if c == '\'' || c == '"' then spacedOutside (some c) rest
          else startsSpaced (c :: rest) || spacedOutside none rest

/-- A selector holds a combinator outside quotes, or ends with one that a space precedes. -/
def hasBareCombinator (body : List Char) : Bool :=
  let ending := Text.trimEnd body
  Text.endsWith (' ' :: Combinator.and.mark) ending ||
    Text.endsWith (' ' :: Combinator.or.mark) ending || spacedOutside none body

/-- The text is the name of an attribute: a letter or underscore, then letters, digits,
underscores, hyphens and colons. -/
def isAttributeName : List Char → Bool
  | [] => false
  | c :: rest =>
      (c.isAlpha || c == '_') &&
        rest.all fun c => c.isAlphanum || c == '_' || c == '-' || c == ':'

/-- The texts before and after the last `@`. -/
def splitLastAt : List Char → Option (List Char × List Char)
  | [] => none
  | c :: rest =>
      match splitLastAt rest with
      | some (before, after) => some (c :: before, after)
      | none => if c == '@' then some ([], rest) else none

/-- The selector list of a body, and what is read from the elements: the attribute named after
the last `@`, or the text where no name follows it. -/
def splitAttribute (body : List Char) : List Char × Attribute :=
  match splitLastAt body with
  | some (selector, name) =>
      if isAttributeName name then (selector, Attribute.ofName (String.ofList name))
      else (body, .text)
  | none => (body, .text)

/-- The selector of a family with a body. -/
def selectorOf (kind : SelectorKind) (segment body : List Char) : Except RuleError Selector :=
  match kind with
  | .text => .ok (.text (String.ofList body))
  | .regex =>
      if body.isEmpty then .error (.emptyBody .regex)
      else (Pattern.ofTerm (String.ofList body)).map Selector.regex
  | .json =>
      if hasBareCombinator body then .error (.combinatorInBody .json (String.ofList segment))
      else
        let path := Text.trim body
        if path.isEmpty then .error (.emptyBody .json) else .ok (.json (String.ofList path))
  | .css =>
      if hasBareCombinator body then .error (.combinatorInBody .css (String.ofList segment))
      else
        let (selector, reading) := splitAttribute body
        let selector := Text.trim selector
        if selector.isEmpty then .error (.emptyBody .css)
        else .ok (.css (String.ofList selector) reading)

/-- The narrowing pattern that a term spells. -/
def sanitizerOf (segment : List Char) :
    Option (List Char) → Except RuleError (Option Pattern)
  | none => .ok none
  | some [] => .error (.emptySanitizer (String.ofList segment))
  | some raw => (Pattern.ofTerm (unescaped raw)).map some

/-- The term that a segment spells. -/
def termOf (segment : List Char) : Except RuleError Term :=
  match splitTag? segment with
  | none => .error (.unknownTag (String.ofList segment))
  | some (kind, text) => do
      let (body, raw) := splitSanitizer text
      let selector ← selectorOf kind segment (unescape body)
      let sanitizer ← sanitizerOf segment raw
      return { selector, sanitizer }

/-- The chain that segments spell. -/
def chainOf (segments : List Segment) : Except RuleError Chain :=
  (segments.mapM fun segment => termOf segment.text).map Chain.mk

/-- The rule that a text spells. -/
def ofText (text : List Char) : Except RuleError Rule := do
  let chains ← segments text
  (chains.mapM chainOf).map Rule.mk

/-- The rule that a string spells. -/
def parse (text : String) : Except RuleError Rule :=
  ofText text.toList

end Rule

end Gleaner
