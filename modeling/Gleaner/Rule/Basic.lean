import Gleaner.Rule.Pattern

/-!
# Rules

A rule is a list of chains that are tried one after the other; a chain is a list of terms whose
values are joined; a term selects from a document and may narrow what it finds by a pattern.
-/

namespace Gleaner

/-- The four families of selectors. -/
inductive SelectorKind where
  | css
  | json
  | regex
  | text
  deriving DecidableEq, Repr

namespace SelectorKind

/-- The name of the family. -/
def name : SelectorKind → String
  | css => "css"
  | json => "json"
  | regex => "regex"
  | text => "text"

/-- The word that opens a term of the family. -/
def tag (kind : SelectorKind) : String :=
  "@" ++ kind.name ++ ":"

/-- Every family. -/
def all : List SelectorKind :=
  [css, json, regex, text]

/-- The family with the name. -/
def ofName? (name : String) : Option SelectorKind :=
  all.find? (·.name == name)

theorem ofName?_name (kind : SelectorKind) : ofName? kind.name = some kind := by
  cases kind <;> rfl

end SelectorKind

/-- What is read from a selected element. -/
inductive Attribute where
  /-- Its text. -/
  | text
  /-- The markup inside it. -/
  | html
  /-- The value of one of its attributes. -/
  | named (name : String)
  deriving DecidableEq, Repr

namespace Attribute

/-- The attribute that a name stands for. -/
def ofName (name : String) : Attribute :=
  if name = "text" then text
  else if name = "html" then html
  else named name

/-- The name that stands for the attribute. -/
def name : Attribute → String
  | text => "text"
  | html => "html"
  | named name => name

theorem name_ofName (name : String) : (ofName name).name = name := by
  unfold ofName
  split
  · next same => exact same.symm
  · split
    · next same => exact same.symm
    · rfl

end Attribute

/-- What a term selects. -/
inductive Selector where
  /-- An attribute of each element that a selector list matches. -/
  | css (selector : String) (reading : Attribute)
  /-- The values that a path leads to. -/
  | json (path : String)
  /-- The first match of a pattern in the raw text. -/
  | regex (pattern : Pattern)
  /-- The literal itself. -/
  | text (literal : String)
  deriving DecidableEq

/-- The family of a selector. -/
def Selector.kind : Selector → SelectorKind
  | css _ _ => .css
  | json _ => .json
  | regex _ => .regex
  | text _ => .text

/-- A selector, and the pattern that narrows what it finds. -/
structure Term where
  /-- What is selected. -/
  selector : Selector
  /-- The narrowing pattern, if there is one. -/
  sanitizer : Option Pattern := none
  deriving DecidableEq

/-- Terms whose values are joined from left to right. -/
structure Chain where
  /-- The terms. -/
  terms : List Term
  deriving DecidableEq

/-- Chains of which the first successful one gives the value. -/
structure Rule where
  /-- The chains, preferred ones first. -/
  groups : List Chain
  deriving DecidableEq

/-- Number of terms in all chains. -/
def Rule.termCount (rule : Rule) : Nat :=
  (rule.groups.flatMap (·.terms)).length

end Gleaner
