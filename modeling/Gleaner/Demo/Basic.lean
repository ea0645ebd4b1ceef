import Gleaner.Engine
import Gleaner.Markup

/-!
# Demonstrations

A demonstration is the list of lines that it prints.
-/

namespace Gleaner.Demo

/-- The text of the lines. -/
def textOf (lines : List String) : String :=
  "\n".intercalate lines

/-- A new engine for HTML and JSON. -/
def engine (config : EngineConfig) : Engine Html.Tree :=
  Engine.build config standardBackends

/-- What each rule extracts from a source, and the engine afterwards. -/
def extractEach (engine : Engine Html.Tree) (source : String) :
    List String → List (String × Extraction) × Engine Html.Tree
  | [] => ([], engine)
  | rule :: rest =>
      let (extraction, engine) := engine.parse source none rule
      let (more, engine) := extractEach engine source rest
      ((rule, extraction) :: more, engine)

/-- What each rule extracts from a document, and the engine afterwards. -/
def extractEachFrom (engine : Engine Html.Tree) (document : Document Html.Tree) :
    List String → List (String × Extraction) × Engine Html.Tree
  | [] => ([], engine)
  | rule :: rest =>
      let (extraction, engine) := engine.parseDocument document rule
      let (more, engine) := extractEachFrom engine document rest
      ((rule, extraction) :: more, engine)

/-- A rule and its extraction on one line. -/
def inlineLine (entry : String × Extraction) : String :=
  Text.padded 40 entry.1 ++ " => " ++ entry.2.display

/-- A rule and its extraction on two lines. -/
def stackedLines (entry : String × Extraction) : List String :=
  [entry.1, "  => " ++ entry.2.display]

end Gleaner.Demo
