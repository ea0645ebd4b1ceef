import Gleaner.Regex.Parser
import Gleaner.Regex.Search

/-!
# Patterns

A pattern is a source text together with the automaton that the text compiles to.  The source
determines the automaton, so two patterns are equal when their sources are.
-/

namespace Gleaner

/-- A regular expression that has been compiled from its source. -/
structure Pattern where
  /-- The text that was compiled. -/
  source : String
  /-- The automaton. -/
  program : Regex.Program
  /-- The automaton is the one of the source. -/
  compiled : (Regex.Expr.parse source.toList).map Regex.Expr.compile = .ok program

namespace Pattern

/-- Compiles a source. -/
def ofSource (source : String) : Except Regex.SyntaxError Pattern :=
  match h : (Regex.Expr.parse source.toList).map Regex.Expr.compile with
  | .ok program => .ok { source, program, compiled := h }
  | .error cause => .error cause

@[ext]
theorem ext_source {left right : Pattern} (same : left.source = right.source) : left = right := by
  obtain ⟨source, program, compiled⟩ := left
  obtain ⟨other, automaton, built⟩ := right
  cases same
  cases Except.ok.inj (compiled.symm.trans built)
  rfl

instance : DecidableEq Pattern := fun left right =>
  if same : left.source = right.source then isTrue (ext_source same)
  else isFalse fun equal => same (congrArg source equal)

theorem source_of_ofSource {source : String} {pattern : Pattern}
    (built : ofSource source = .ok pattern) : pattern.source = source := by
  unfold ofSource at built
  split at built
  · cases built
    rfl
  · cases built

/-- A pattern compiles to itself. -/
theorem ofSource_source (pattern : Pattern) : ofSource pattern.source = .ok pattern := by
  unfold ofSource
  split
  · exact congrArg Except.ok (ext_source rfl)
  · next failed => cases pattern.compiled.symm.trans failed

/-- The text of the first group if it takes part in the first match, else the whole match;
`none` if there is no match. -/
def firstCapture (pattern : Pattern) (text : String) : Option String :=
  (pattern.program.firstCapture text.toList).map String.ofList

end Pattern

end Gleaner
