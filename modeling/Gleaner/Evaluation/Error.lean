import Gleaner.Document
import Gleaner.Query
import Gleaner.Value.Concat

/-!
# Failed evaluations

The causes for which a document cannot be loaded or a rule cannot be evaluated, and their
wording.  A selector that finds nothing is no failure.
-/

namespace Gleaner

/-- Why loading or evaluation fails. -/
inductive EvalError where
  /-- A selector cannot be used on a document of this kind. -/
  | documentMismatch (selector : SelectorKind) (document : DocumentKind)
  /-- A source is not of its declared kind. -/
  | invalidDocument (expected : DocumentKind) (reason : String)
  /-- A backend refuses a query. -/
  | query (error : QueryError)
  /-- Sequences of different lengths cannot be joined. -/
  | lengthMismatch (lengths : LengthMismatch)
  deriving DecidableEq, Repr

namespace EvalError

/-- The wording of the error up to where a malformed source or selector list is explained. -/
def headline : EvalError → String
  | documentMismatch selector document =>
      "@" ++ selector.name ++ ": selector cannot run against a " ++ document.name ++ " document"
  | invalidDocument expected _ => "source is not a valid " ++ expected.name ++ " document: "
  | query error => error.headline
  | lengthMismatch lengths =>
      "cannot concatenate sequences of length " ++ toString lengths.left ++ " and " ++
        toString lengths.right

/-- The wording of the error. -/
def message (error : EvalError) : String :=
  match error with
  | invalidDocument _ reason => error.headline ++ reason
  | query cause => cause.message
  | _ => error.headline

end EvalError

end Gleaner
