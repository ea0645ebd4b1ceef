import Gleaner.Cache
import Gleaner.Evaluation.Basic
import Gleaner.Extraction
import Gleaner.Json.Parser

/-!
# Engines

An engine reads rules, remembers them, and evaluates them against documents.  Every operation
that reads a rule gives the engine back with its cache brought up to date.
-/

namespace Gleaner

/-- An engine over markup trees of type `Tree`. -/
structure Engine (Tree : Type) where
  /-- The choices of its user. -/
  config : EngineConfig
  /-- What it queries documents with. -/
  backends : Backends Tree
  /-- The rules it remembers. -/
  cache : RuleCache

namespace Engine

variable {Tree : Type}

/-- A new engine. -/
def build (config : EngineConfig) (backends : Backends Tree) : Engine Tree where
  config := config
  backends := backends
  cache := { capacity := config.cacheCapacity }

/-- The rule of a text and whether it was remembered. -/
def lookup (engine : Engine Tree) (text : String) :
    Except RuleError (Rule × Bool) × Engine Tree :=
  let (result, cache) := engine.cache.getOrParse text
  (result, { engine with cache })

/-- The rule of a text. -/
def compile (engine : Engine Tree) (text : String) : Except Error Rule × Engine Tree :=
  let (result, engine) := engine.lookup text
  match result with
  | .ok (rule, _) => (.ok rule, engine)
  | .error error => (.error (.rule error), engine)

/-- The document of markup. -/
def loadMarkup (engine : Engine Tree) (source : String) : Document Tree :=
  .html source (engine.backends.markup.load source)

/-- The document of a source of a declared kind, or of the kind that it looks like.  A source
that only looks like JSON is markup if it holds a closing tag, else text. -/
def load (engine : Engine Tree) (source : String) (declared : Option DocumentKind) :
    Except EvalError (Document Tree) :=
  match declared.getD (DocumentKind.infer source) with
  | .html => .ok (engine.loadMarkup source)
  | .text => .ok (.text source)
  | .json =>
      match Json.parse source with
      | .ok root => .ok (.json root)
      | .error error =>
          if declared.isSome then .error (.invalidDocument .json error.message)
          else if DocumentKind.hasClosingTag source.toList then .ok (engine.loadMarkup source)
          else .ok (.text source)

/-- The outcome of a rule. -/
def evaluate (engine : Engine Tree) (document : Document Tree) (rule : Rule) :
    Except EvalError Outcome :=
  rule.evaluate engine.backends engine.config document

/-- The value of a rule. -/
def valueOf (engine : Engine Tree) (document : Document Tree) (rule : Rule) :
    Except Error Value :=
  match engine.evaluate document rule with
  | .ok outcome => .ok outcome.value
  | .error error => .error (.evaluation error)

/-- The value of a rule's text on a document. -/
def tryDocument (engine : Engine Tree) (document : Document Tree) (text : String) :
    Except Error Value × Engine Tree :=
  let (compiled, engine) := engine.compile text
  match compiled with
  | .ok rule => (engine.valueOf document rule, engine)
  | .error error => (.error error, engine)

/-- The extraction of a rule's text from a document. -/
def parseDocument (engine : Engine Tree) (document : Document Tree) (text : String) :
    Extraction × Engine Tree :=
  let (result, engine) := engine.tryDocument document text
  (.ofResult result, engine)

/-- The extraction of a rule from a document. -/
def parseRule (engine : Engine Tree) (document : Document Tree) (rule : Rule) : Extraction :=
  .ofResult (engine.valueOf document rule)

/-- The extraction of a rule's text from a source of a declared kind, or of the kind that it
looks like.  The rule is read before the source. -/
def parse (engine : Engine Tree) (source : String) (declared : Option DocumentKind)
    (text : String) : Extraction × Engine Tree :=
  let (compiled, engine) := engine.compile text
  match compiled with
  | .error error => (.failed error.kind, engine)
  | .ok rule =>
      match engine.load source declared with
      | .error error => (.failed error.kind, engine)
      | .ok document => (engine.parseRule document rule, engine)

/-- The report of a rule's text on a document. -/
def parseDetailed (engine : Engine Tree) (document : Document Tree) (text : String) :
    Report × Engine Tree :=
  let (looked, engine) := engine.lookup text
  match looked with
  | .error error =>
      ({ extraction := .failed error.kind
         matchedGroup := none
         attempts := 0
         cacheHit := false }, engine)
  | .ok (rule, cacheHit) =>
      match engine.evaluate document rule with
      | .ok outcome =>
          ({ extraction := .ofValue outcome.value
             matchedGroup := outcome.matchedGroup
             attempts := outcome.attempts
             cacheHit }, engine)
      | .error error =>
          ({ extraction := .failed error.kind
             matchedGroup := none
             attempts := 0
             cacheHit }, engine)

/-- The engine with an empty cache. -/
def clear (engine : Engine Tree) : Engine Tree :=
  { engine with cache := engine.cache.clear }

/-- The engine for display. -/
def display (engine : Engine Tree) : String :=
  "RuleEngine(" ++ toString engine.cache.size ++ " cached rules, zip " ++
    engine.config.zipPolicy.display ++ ", trim " ++ toString engine.config.trimText ++ ")"

end Engine

end Gleaner
