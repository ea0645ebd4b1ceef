import Gleaner.Markup
import Gleaner.Proofs.Engine.History

/-!
# Agreement of the calls

All calls that run the text of a rule give what reading the text, loading the source and
evaluating the rule give, in that order and with nothing remembered.  So they agree with each
other, whatever the engine has been asked before and in between.
-/

namespace Gleaner.Engine

variable {Tree : Type} {engine left right : Engine Tree}

/-- The value of a rule's text on a document, with nothing remembered. -/
def plainValue (engine : Engine Tree) (document : Document Tree) (text : String) :
    Except Error Value :=
  match Rule.parse text with
  | .ok rule => engine.valueOf document rule
  | .error error => .error (.rule error)

/-- The extraction of a rule's text from a source, with nothing remembered: the rule is read
before the source. -/
def plainExtraction (engine : Engine Tree) (source : String) (declared : Option DocumentKind)
    (text : String) : Extraction :=
  match Rule.parse text, engine.load source declared with
  | .error error, _ => .failed error.kind
  | .ok _, .error error => .failed error.kind
  | .ok _, .ok document => .ofResult (engine.plainValue document text)

/-! ## One call -/

theorem tryDocument_fst (valid : engine.cache.Valid) (document : Document Tree) (text : String) :
    (engine.tryDocument document text).1 = engine.plainValue document text := by
  rw [tryDocument, compile_eq valid, plainValue]
  cases Rule.parse text <;> rfl

theorem parseDocument_fst (valid : engine.cache.Valid) (document : Document Tree)
    (text : String) :
    (engine.parseDocument document text).1 = .ofResult (engine.plainValue document text) :=
  congrArg Extraction.ofResult (tryDocument_fst valid document text)

theorem parseDetailed_extraction (valid : engine.cache.Valid) (document : Document Tree)
    (text : String) :
    (engine.parseDetailed document text).1.extraction =
      .ofResult (engine.plainValue document text) := by
  obtain ⟨hit, found⟩ := exists_lookup_eq valid text
  rw [parseDetailed, found, plainValue]
  cases Rule.parse text with
  | error error => rfl
  | ok rule =>
      have same : (engine.remembering text).evaluate document rule =
          engine.evaluate document rule := rfl
      simp only [Except.map, valueOf, same]
      cases engine.evaluate document rule <;> rfl

theorem parseRule_eq {text : String} {rule : Rule} (read : Rule.parse text = .ok rule)
    (document : Document Tree) :
    engine.parseRule document rule = .ofResult (engine.plainValue document text) := by
  rw [parseRule, plainValue, read]

theorem parse_fst (valid : engine.cache.Valid) (source : String)
    (declared : Option DocumentKind) (text : String) :
    (engine.parse source declared text).1 = engine.plainExtraction source declared text := by
  have same : (engine.remembering text).load source declared = engine.load source declared := rfl
  rw [parse, compile_eq valid, plainExtraction]
  cases read : Rule.parse text with
  | error error => rfl
  | ok rule =>
      simp only [Except.mapError, same]
      cases engine.load source declared with
      | error error => rfl
      | ok document => exact parseRule_eq read document

/-! ## Two calls to one engine -/

theorem Alike.symm (alike : Alike left right) : Alike right left where
  backends := alike.backends.symm
  zipPolicy := alike.zipPolicy.symm
  trimText := alike.trimText.symm
  left := alike.right
  right := alike.left

theorem Alike.plainValue (alike : Alike left right) (document : Document Tree) (text : String) :
    left.plainValue document text = right.plainValue document text := by
  rw [Engine.plainValue, Engine.plainValue]
  cases Rule.parse text with
  | error error => rfl
  | ok rule => exact alike.valueOf document rule

theorem Alike.parseDocument_fst (alike : Alike left right) (document : Document Tree)
    (text : String) :
    (left.parseDocument document text).1 = .ofResult (right.plainValue document text) := by
  rw [Engine.parseDocument_fst alike.left, alike.plainValue]

/-- Whatever the engine has been asked, it differs at most in what it remembers. -/
theorem alike_after (config : EngineConfig) (backends : Backends Tree)
    (history other : List (Call Tree)) :
    Alike ((build config backends).after history) ((build config backends).after other) := by
  have fresh : Alike (build config backends) (build config backends) :=
    alike_build config backends config.cacheCapacity
  have right := (fresh.after_left other).symm
  exact right.after_left history

/-- All calls that run a rule's text agree, whatever the engine has been asked before each. -/
theorem calls_agree (config : EngineConfig) (backends : Backends Tree)
    (history other : List (Call Tree)) (document : Document Tree) (source : String)
    (declared : Option DocumentKind) (text : String) :
    let engine := (build config backends).after history
    let later := (build config backends).after other
    (∀ value, (later.tryDocument document text).1 = .ok value →
        (engine.parseDocument document text).1 = .ofValue value) ∧
      (∀ error, (later.tryDocument document text).1 = .error error →
        (engine.parseDocument document text).1 = .failed error.kind) ∧
      (later.parseDetailed document text).1.extraction = (engine.parseDocument document text).1 ∧
      (∀ rule, Rule.parse text = .ok rule →
        later.parseRule document rule = (engine.parseDocument document text).1) ∧
      (∀ error, Rule.parse text = .error error →
        (later.parse source declared text).1 = .failed error.kind) ∧
      (∀ rule, Rule.parse text = .ok rule →
        (∀ error, engine.load source declared = .error error →
          (later.parse source declared text).1 = .failed error.kind) ∧
        ∀ loaded, engine.load source declared = .ok loaded →
          (later.parse source declared text).1 = (engine.parseDocument loaded text).1) := by
  intro engine later
  have alike : Alike engine later := alike_after config backends history other
  have same (document : Document Tree) :
      (engine.parseDocument document text).1 = .ofResult (later.plainValue document text) :=
    alike.parseDocument_fst document text
  have loads := alike.load source declared
  have parsed := parse_fst alike.right source declared text
  refine ⟨fun value found => ?_, fun error failed => ?_, ?_, fun rule read => ?_,
    fun error failed => ?_, fun rule read => ⟨fun error failed => ?_, fun loaded found => ?_⟩⟩
  · rw [tryDocument_fst alike.right] at found
    rw [same, found, Extraction.ofResult]
  · rw [tryDocument_fst alike.right] at failed
    rw [same, failed, Extraction.ofResult]
  · rw [same, parseDetailed_extraction alike.right]
  · rw [same, parseRule_eq read]
  · rw [parsed, plainExtraction, failed]
  · rw [parsed, plainExtraction, read, ← loads, failed]
  · rw [parsed, plainExtraction, read, ← loads, found, same]

/-- A rule with a value, a rule that does not fit the document, a source that is not what it is
declared as, and a malformed rule. -/
theorem calls_agree_on_text :
    let engine := (build {} standardBackends).after [.compile "@text:a"]
    let later := (build {} standardBackends).after [.load "" none, .clear]
    let document := Document.text "x"
    (engine.parseDocument document "@text:a").1 = .ofValue (.scalar (.string "a")) ∧
      (later.parseDetailed document "@text:a").1.extraction =
        (engine.parseDocument document "@text:a").1 ∧
      (later.parse "x" none "@text:a").1 = (engine.parseDocument document "@text:a").1 ∧
      (∃ rule, later.parseRule document rule = (engine.parseDocument document "@text:a").1) ∧
      (engine.parseDocument document "@css:p").1 = .failed .documentMismatch ∧
      (later.parse "x" (some .json) "@text:a").1 = .failed .documentMismatch ∧
      (later.parse "x" none "@word:a").1 = .failed .malformedRule := by
  intro engine later document
  have agree :=
    calls_agree {} standardBackends [.compile "@text:a"] [.load "" none, .clear] document
  have read : Rule.parse "@text:a" =
      .ok { groups := [{ terms := [{ selector := .text "a" }] }] } := by decide
  obtain ⟨value, -, extraction, parsed, -, loaded⟩ := agree "x" none "@text:a"
  obtain ⟨-, mismatch, -⟩ := agree "x" none "@css:p"
  obtain ⟨-, -, -, -, -, undeclared⟩ := agree "x" (some .json) "@text:a"
  obtain ⟨-, -, -, -, malformed, -⟩ := agree "x" none "@word:a"
  exact ⟨value _ rfl, extraction, (loaded _ read).2 document rfl, ⟨_, parsed _ read⟩,
    mismatch (.evaluation (.documentMismatch .css .text)) rfl, (undeclared _ read).1 _ rfl,
    malformed (.unknownTag "@word:a") rfl⟩

end Gleaner.Engine
