import Gleaner.Rule.Escape
import Gleaner.Rule.Segment

/-!
# Rules as text

The written form of rules.  Separators inside selectors and patterns are escaped.
-/

namespace Gleaner

/-- The written form of a pattern. -/
def Pattern.render (pattern : Pattern) : String :=
  Rule.escaped pattern.source

/-- The written form of a selector. -/
def Selector.render (selector : Selector) : String :=
  selector.kind.tag ++
    match selector with
    | .css selector reading => Rule.escaped selector ++ "@" ++ reading.name
    | .json path => Rule.escaped path
    | .regex pattern => pattern.render
    | .text literal => Rule.escaped literal

/-- The written form of a term. -/
def Term.render (term : Term) : String :=
  match term.sanitizer with
  | none => term.selector.render
  | some sanitizer => term.selector.render ++ "##" ++ sanitizer.render

/-- The written form of a chain. -/
def Chain.render (chain : Chain) : String :=
  String.intercalate (String.ofList Rule.Combinator.and.token) (chain.terms.map Term.render)

/-- The written form of a rule. -/
def Rule.render (rule : Rule) : String :=
  String.intercalate (String.ofList Rule.Combinator.or.token) (rule.groups.map Chain.render)

end Gleaner
