import Gleaner.Rule.Basic

/-!
# Malformed rules

The causes for which a rule is refused, and their wording.
-/

namespace Gleaner

/-- Why a rule is refused. -/
inductive RuleError where
  /-- The rule is blank. -/
  | emptyRule
  /-- A term starts with no known family. -/
  | unknownTag (term : String)
  /-- A term selects nothing. -/
  | emptyBody (kind : SelectorKind)
  /-- A combinator has no term on one of its sides; `offset` counts bytes. -/
  | danglingCombinator (offset : Nat)
  /-- A combinator stands in a selector, so the tag of the next term is missing. -/
  | combinatorInBody (kind : SelectorKind) (term : String)
  /-- A term narrows by an empty pattern. -/
  | emptySanitizer (term : String)
  /-- A pattern does not compile. -/
  | pattern (source : String) (cause : Regex.SyntaxError)
  deriving DecidableEq

namespace RuleError

/-- The wording of the error up to where an invalid pattern is explained. -/
def headline : RuleError → String
  | emptyRule => "parse error: rule is empty"
  | unknownTag term => "parse error: unknown selector prefix in term '" ++ term ++ "'"
  | emptyBody kind => "parse error: empty @" ++ kind.name ++ " selector body"
  | danglingCombinator offset => "parse error: dangling combinator at byte " ++ toString offset
  | combinatorInBody kind term =>
      "parse error: unquoted combinator inside @" ++ kind.name ++ " term '" ++ term ++ "'"
  | emptySanitizer term => "parse error: empty sanitizer in term '" ++ term ++ "'"
  | pattern source _ => "parse error: invalid pattern '" ++ source ++ "': "

/-- The wording of the error. -/
def message (error : RuleError) : String :=
  match error with
  | pattern _ cause => error.headline ++ cause.message
  | _ => error.headline

end RuleError

/-- Compiles the pattern of a term. -/
def Pattern.ofTerm (source : String) : Except RuleError Pattern :=
  match Pattern.ofSource source with
  | .ok pattern => .ok pattern
  | .error cause => .error (.pattern source cause)

end Gleaner
