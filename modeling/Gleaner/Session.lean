import Gleaner.Engine

/-!
# Sessions

The calls that an engine takes, as data, and the answer to each.
-/

namespace Gleaner

/-- A call to an engine. -/
inductive Call (Tree : Type) where
  /-- The rule of a text is asked for. -/
  | compile (text : String)
  /-- A source is loaded. -/
  | load (source : String) (declared : Option DocumentKind)
  /-- A rule's text is run on a source. -/
  | parse (source : String) (declared : Option DocumentKind) (text : String)
  /-- A rule's text is run on a document. -/
  | parseDocument (document : Document Tree) (text : String)
  /-- A rule is run on a document. -/
  | parseRule (document : Document Tree) (rule : Rule)
  /-- The plain value of a rule's text on a document is asked for. -/
  | tryDocument (document : Document Tree) (text : String)
  /-- The report of a rule's text on a document is asked for. -/
  | parseDetailed (document : Document Tree) (text : String)
  /-- The cache is emptied. -/
  | clear

/-- The answer to a call. -/
inductive Answer (Tree : Type) where
  /-- A rule, or why there is none. -/
  | rule (result : Except Error Rule)
  /-- A document, or why there is none. -/
  | document (result : Except EvalError (Document Tree))
  /-- An extraction. -/
  | extraction (extraction : Extraction)
  /-- A value, or why there is none. -/
  | value (result : Except Error Value)
  /-- A report. -/
  | report (report : Report)
  /-- The call has no result. -/
  | done

namespace Engine

variable {Tree : Type}

/-- The answer to a call, and the engine after it. -/
def answer (engine : Engine Tree) : Call Tree → Answer Tree × Engine Tree
  | .compile text =>
      let (result, engine) := engine.compile text
      (.rule result, engine)
  | .load source declared => (.document (engine.load source declared), engine)
  | .parse source declared text =>
      let (extraction, engine) := engine.parse source declared text
      (.extraction extraction, engine)
  | .parseDocument document text =>
      let (extraction, engine) := engine.parseDocument document text
      (.extraction extraction, engine)
  | .parseRule document rule => (.extraction (engine.parseRule document rule), engine)
  | .tryDocument document text =>
      let (result, engine) := engine.tryDocument document text
      (.value result, engine)
  | .parseDetailed document text =>
      let (report, engine) := engine.parseDetailed document text
      (.report report, engine)
  | .clear => (.done, engine.clear)

/-- The engine after a history of calls. -/
def after (engine : Engine Tree) (history : List (Call Tree)) : Engine Tree :=
  history.foldl (fun engine call => (engine.answer call).2) engine

end Engine

end Gleaner
