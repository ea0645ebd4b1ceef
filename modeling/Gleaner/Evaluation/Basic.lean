import Gleaner.Evaluation.Resolve

/-!
# Evaluating rules

The values of the terms of a chain are joined from left to right; of the chains of a rule the
first one with a successful value gives the value of the rule.
-/

namespace Gleaner

/-- The value with nothing in place of an empty sequence. -/
def Value.absentAsNull : Value → Value
  | .sequence [] => .null
  | value => value

/-- The value of a chain given how its terms resolve; `merged` is the value of the terms before
these, if there are any. -/
def mergeTerms (policy : ZipPolicy) (resolve : Term → Except EvalError Value)
    (merged : Option Value) : List Term → Except EvalError Value
  | [] => .ok (merged.getD .null)
  | term :: terms => do
      let value := (← resolve term).absentAsNull
      match merged with
      | none => mergeTerms policy resolve (some value) terms
      | some before =>
          match before.concat policy value with
          | .ok joined => mergeTerms policy resolve (some joined) terms
          | .error lengths => throw (.lengthMismatch lengths)

/-- What a rule evaluates to. -/
structure Outcome where
  /-- The joined value of the chain that succeeded, nulls included, or nothing. -/
  value : Value
  /-- The number of that chain. -/
  matchedGroup : Option Nat
  /-- How many chains were evaluated. -/
  attempts : Nat
  deriving DecidableEq, Repr

/-- The outcome of chains, the first of which has the number `index`. -/
def tryChains (evaluate : Chain → Except EvalError Value) (index : Nat) :
    List Chain → Except EvalError Outcome
  | [] => .ok { value := .null, matchedGroup := none, attempts := index }
  | chain :: chains => do
      let value ← evaluate chain
      if value.isSuccess then
        return { value, matchedGroup := some index, attempts := index + 1 }
      else
        tryChains evaluate (index + 1) chains

variable {Tree : Type}

/-- The joined value of a chain. -/
def Chain.evaluate (backends : Backends Tree) (config : EngineConfig) (document : Document Tree)
    (chain : Chain) : Except EvalError Value :=
  mergeTerms config.zipPolicy (Term.resolve backends config.trimText document) none chain.terms

/-- The outcome of a rule. -/
def Rule.evaluate (backends : Backends Tree) (config : EngineConfig) (document : Document Tree)
    (rule : Rule) : Except EvalError Outcome :=
  tryChains (Chain.evaluate backends config document) 0 rule.groups

end Gleaner
