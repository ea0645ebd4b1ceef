import Gleaner.Evaluation.Error
import Gleaner.Rule.Error

/-!
# Errors

All errors together, and the kinds that results report.
-/

namespace Gleaner

/-- Anything that can go wrong. -/
inductive Error where
  /-- A rule is malformed. -/
  | rule (error : RuleError)
  /-- Loading or evaluation fails. -/
  | evaluation (error : EvalError)
  /-- No family of selectors goes by a name. -/
  | unknownKind (name : String)
  deriving DecidableEq

/-- The kinds of errors. -/
inductive ErrorKind where
  | malformedRule
  | selectorSyntax
  | pattern
  | documentMismatch
  | unknownKind
  | lengthMismatch
  deriving DecidableEq, Repr

namespace ErrorKind

/-- The name of the kind. -/
def name : ErrorKind → String
  | malformedRule => "MalformedRuleError"
  | selectorSyntax => "SelectorSyntaxError"
  | pattern => "PatternError"
  | documentMismatch => "DocumentTypeMismatch"
  | unknownKind => "UnknownSelectorKind"
  | lengthMismatch => "SequenceLengthMismatch"

end ErrorKind

/-- The kind of a malformed rule. -/
def RuleError.kind : RuleError → ErrorKind
  | pattern _ _ => .pattern
  | _ => .malformedRule

/-- The kind of a failed evaluation. -/
def EvalError.kind : EvalError → ErrorKind
  | documentMismatch _ _ => .documentMismatch
  | invalidDocument _ _ => .documentMismatch
  | query _ => .selectorSyntax
  | lengthMismatch _ => .lengthMismatch

namespace Error

/-- The kind of an error. -/
def kind : Error → ErrorKind
  | rule error => error.kind
  | evaluation error => error.kind
  | unknownKind _ => .unknownKind

/-- The wording of an error up to where a malformed pattern, source or selector list is
explained. -/
def headline : Error → String
  | rule error => error.headline
  | evaluation error => error.headline
  | unknownKind name => "unknown selector kind '" ++ name ++ "'"

/-- The wording of an error. -/
def message : Error → String
  | rule error => error.message
  | evaluation error => error.message
  | unknownKind name => (unknownKind name).headline

end Error

end Gleaner
