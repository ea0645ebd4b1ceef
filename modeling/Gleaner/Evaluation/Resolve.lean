import Gleaner.Evaluation.Error
import Gleaner.Value.Sanitize

/-!
# Resolving terms

The value that one term finds in a document.
-/

namespace Gleaner

/-- The value of the matches of a path: an array of leaves that is the only match stands for its
elements. -/
def Value.ofJsonMatches (found : List Json) : Value :=
  match found with
  | [.array items] =>
      if items.all Json.isLeaf then .sequence (items.map Primitive.ofJson)
      else .ofMatches (found.map Primitive.ofJson)
  | _ => .ofMatches (found.map Primitive.ofJson)

/-- The text read from an element: without the blanks around it if text is to be trimmed and it
is not the value of a named attribute. -/
def Attribute.tidy (trimText : Bool) (reading : Attribute) (text : String) : String :=
  match reading with
  | .named _ => text
  | _ => if trimText then Text.trimmed text else text

variable {Tree : Type}

/-- The value that a selector finds in a document. -/
def Selector.resolve (backends : Backends Tree) (trimText : Bool) (document : Document Tree)
    (selector : Selector) : Except EvalError Value :=
  let mismatch := EvalError.documentMismatch selector.kind document.kind
  match selector with
  | .text literal => .ok (.scalar (.string literal))
  | .regex pattern =>
      match document.rawText? with
      | some source => .ok (.scalar (.ofOption (pattern.firstCapture source)))
      | none => .error mismatch
  | .css query reading =>
      match document with
      | .html _ tree =>
          match backends.markup.queryAll tree query reading with
          | .ok found =>
              .ok (.ofMatches (found.map fun item =>
                .ofOption (item.map (reading.tidy trimText))))
          | .error error => .error (.query error)
      | _ => .error mismatch
  | .json path =>
      match document with
      | .json root =>
          match backends.path.evaluate root path with
          | .ok found => .ok (.ofJsonMatches found)
          | .error error => .error (.query error)
      | _ => .error mismatch

/-- The value that a term finds in a document, narrowed by its pattern. -/
def Term.resolve (backends : Backends Tree) (trimText : Bool) (document : Document Tree)
    (term : Term) : Except EvalError Value :=
  (term.selector.resolve backends trimText document).map fun value =>
    match term.sanitizer with
    | some pattern => value.sanitize pattern
    | none => value

end Gleaner
