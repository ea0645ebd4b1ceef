import Gleaner.Proofs.Engine.History
import Gleaner.Proofs.Engine.Loading

/-!
# Declared kinds

Declaring the kind that a source is loaded as changes nothing: the document is the same, and so is
what every rule extracts from it.  Only what is declared to be JSON can be refused, and it is
refused where it is no JSON.
-/

namespace Gleaner.Engine

variable {Tree : Type} {engine : Engine Tree} {source text : String}

private theorem load_compile_snd (engine : Engine Tree) (source text : String)
    (declared : Option DocumentKind) :
    (engine.compile text).2.load source declared = engine.load source declared := by
  rw [compile_snd]
  rfl

private theorem Loads.load_declared {document : Document Tree}
    (loads : engine.Loads source document) :
    engine.load source (some document.kind) = .ok document := by
  cases loads with
  | json looks read => simp [load, Document.kind, read]
  | _ => rfl

private theorem parse_eq_of_load_eq {left right : Option DocumentKind}
    (same : engine.load source left = engine.load source right) (text : String) :
    engine.parse source left text = engine.parse source right text := by
  have loaded : (engine.compile text).2.load source left =
      (engine.compile text).2.load source right := by
    rw [load_compile_snd, load_compile_snd, same]
  unfold parse
  dsimp only
  rw [loaded]

theorem load_json_eq_error_iff {error : EvalError} :
    engine.load source (some .json) = .error error ↔
      ∃ cause, Json.parse source = .error cause ∧
        error = .invalidDocument .json cause.message := by
  unfold load
  dsimp only [Option.getD_some]
  cases Json.parse source <;> simp [eq_comm]

private theorem exists_compile_eq_ok {rule : Rule} (read : Rule.parse text = .ok rule)
    (engine : Engine Tree) : ∃ found, (engine.compile text).1 = .ok found := by
  unfold compile lookup RuleCache.getOrParse
  cases engine.cache.get? text with
  | some remembered => exact ⟨remembered, rfl⟩
  | none => exact ⟨rule, by simp [read]⟩

private theorem parse_of_load_eq_error {rule : Rule} {declared : Option DocumentKind}
    {error : EvalError} (read : Rule.parse text = .ok rule)
    (refused : engine.load source declared = .error error) :
    (engine.parse source declared text).1 = .failed error.kind := by
  obtain ⟨found, compiled⟩ := exists_compile_eq_ok read engine
  have failed := (load_compile_snd engine source text declared).trans refused
  unfold parse
  simp [compiled, failed]

/-- A source is loaded without a declared kind, and declaring the kind of the document that it is
loaded as changes neither the document nor what any rule extracts.  Declared to be JSON it is
refused exactly if it is no JSON, and every rule then reports the wrong kind of document. -/
theorem kinds_agree (engine : Engine Tree) (source : String) :
    (∃ document, engine.load source none = .ok document ∧
      engine.load source (some document.kind) = .ok document ∧
      ∀ text, engine.parse source none text = engine.parse source (some document.kind) text) ∧
    ((∃ error, engine.load source (some .json) = .error error) ↔
      ∃ cause, Json.parse source = .error cause) ∧
    ∀ error, engine.load source (some .json) = .error error →
      ∀ text rule, Rule.parse text = .ok rule →
        (engine.parse source (some .json) text).1 = .failed .documentMismatch := by
  refine ⟨?_, ?_, fun error refused text rule read => ?_⟩
  · obtain ⟨document, loads⟩ := engine.exists_loads source
    have same := loads.load_eq.trans loads.load_declared.symm
    exact ⟨document, loads.load_eq, loads.load_declared, parse_eq_of_load_eq same⟩
  · constructor
    · rintro ⟨error, refused⟩
      obtain ⟨cause, broken, -⟩ := load_json_eq_error_iff.mp refused
      exact ⟨cause, broken⟩
    · rintro ⟨cause, broken⟩
      exact ⟨_, load_json_eq_error_iff.mpr ⟨cause, broken, rfl⟩⟩
  · obtain ⟨cause, -, rfl⟩ := load_json_eq_error_iff.mp refused
    exact parse_of_load_eq_error read refused

/-- A brace that opens no object makes a text, and a rule that reads nothing of it does not run on
it as JSON. -/
theorem kinds_agree_on_open_brace :
    let backends : Backends Unit :=
      { markup := { load := fun _ => (), queryAll := fun _ _ _ => .ok [] }
        path := jsonPathBackend }
    let engine := build {} backends
    let source := "\x7ba"
    engine.load source none = .ok (.text source) ∧
      engine.parse source none "@text:b" = engine.parse source (some .text) "@text:b" ∧
      (engine.parse source (some .json) "@text:b").1 = .failed .documentMismatch := by
  intro backends engine source
  have broken : Json.parse "\x7ba" = .error .unexpectedCharacter := rfl
  have read : Rule.parse "@text:b" =
      .ok { groups := [{ terms := [{ selector := .text "b" }] }] } := by
    decide
  have loaded : engine.load source none = .ok (.text source) :=
    Loads.load_eq (.untagged (by decide) broken (by decide))
  obtain ⟨⟨document, first, -, same⟩, refused, reports⟩ := kinds_agree engine source
  obtain rfl := Except.ok.inj (loaded.symm.trans first)
  obtain ⟨error, failed⟩ := refused.mpr ⟨_, broken⟩
  exact ⟨loaded, same _, reports error failed _ _ read⟩

end Gleaner.Engine
