import Gleaner.Error

/-!
# Building rules

Rules built from their parts instead of from text.
-/

namespace Gleaner

namespace Term

/-- The text of the elements that a selector list matches. -/
def css (selector : String) : Term where
  selector := .css selector .text

/-- The values that a path leads to. -/
def json (path : String) : Term where
  selector := .json path

/-- What a pattern captures in the raw text. -/
def regex (source : String) : Except RuleError Term :=
  (Pattern.ofTerm source).map fun pattern => { selector := .regex pattern }

/-- A literal. -/
def text (literal : String) : Term where
  selector := .text literal

/-- The term of a family with a body. -/
def ofKind (kind : SelectorKind) (body : String) : Except RuleError Term :=
  match kind with
  | .css => .ok (css body)
  | .json => .ok (json body)
  | .regex => regex body
  | .text => .ok (text body)

/-- The term of the family with a name. -/
def named (name body : String) : Except Error Term :=
  match SelectorKind.ofName? name with
  | some kind => (ofKind kind body).mapError Error.rule
  | none => .error (.unknownKind name)

/-- The term reading an attribute; only elements have attributes. -/
def reading (term : Term) (name : String) : Term :=
  match term.selector with
  | .css selector _ => { term with selector := .css selector (.ofName name) }
  | _ => term

/-- The term narrowed by a pattern. -/
def sanitize (term : Term) (source : String) : Except RuleError Term :=
  (Pattern.ofTerm source).map fun pattern => { term with sanitizer := some pattern }

end Term

/-- The chain of one term. -/
def Chain.ofTerm (term : Term) : Chain where
  terms := [term]

/-- The chain with one more term. -/
def Chain.and (chain : Chain) (term : Term) : Chain where
  terms := chain.terms ++ [term]

/-- The rule of one chain. -/
def Rule.ofChain (chain : Chain) : Rule where
  groups := [chain]

/-- The rule with one more chain. -/
def Rule.or (rule : Rule) (chain : Chain) : Rule where
  groups := rule.groups ++ [chain]

/-- The chain of the terms, each joined to those before it. -/
def Chain.ofTerms : List Term → Chain
  | [] => { terms := [] }
  | first :: rest => rest.foldl Chain.and (ofTerm first)

/-- The rule of the chains, each tried after those before it. -/
def Rule.ofChains : List Chain → Rule
  | [] => { groups := [] }
  | first :: rest => rest.foldl Rule.or (ofChain first)

end Gleaner
