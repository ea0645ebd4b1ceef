import Gleaner.Proofs.Engine.Agreement
import Gleaner.Proofs.Evaluation.Faults
import Gleaner.Proofs.Value.Join

/-!
# The shape of extractions

Whatever an engine is asked, and whatever it has been asked before, an extraction holds data or an
error and never both; the data hold no null; and the kind of the error tells whether the rule was
malformed, held an invalid pattern, or could not be evaluated.
-/

namespace Gleaner

/-- The value is a primitive other than nothing, or a sequence of such that is not empty. -/
inductive Value.Compact : Value → Prop
  | scalar {item : Primitive} (present : item ≠ .null) : Compact (scalar item)
  | sequence {items : List Primitive} (nonempty : items ≠ []) (present : .null ∉ items) :
      Compact (sequence items)

namespace Extraction

/-- What holds of every extraction made under the policy for different lengths. -/
structure Shaped (policy : ZipPolicy) (extraction : Extraction) : Prop where
  /-- There are no data beside an error. -/
  exclusive : extraction.value? = none ∨ extraction.error? = none
  /-- The data hold something, and nothing else. -/
  compact : ∀ value ∈ extraction.value?, value.Compact
  /-- No family of selectors is looked up by its name. -/
  known : extraction.error? ≠ some .unknownKind
  /-- Lengths matter only where they must agree. -/
  strict : extraction.error? = some .lengthMismatch → policy = .error

/-- What holds of every extraction of a rule that needs no reading. -/
structure OfRule (policy : ZipPolicy) (extraction : Extraction) : Prop
    extends extraction.Shaped policy where
  /-- The rule is not malformed. -/
  formed : extraction.error? ≠ some .malformedRule
  /-- Its patterns are valid. -/
  compiled : extraction.error? ≠ some .pattern

/-- What holds of every extraction of the rule that a text spells. -/
structure OfText (policy : ZipPolicy) (text : String) (extraction : Extraction) : Prop
    extends extraction.Shaped policy where
  /-- The rule is reported exactly when it is refused. -/
  refused : extraction.error? = some .malformedRule ∨ extraction.error? = some .pattern ↔
    ∃ error, Rule.parse text = .error error
  /-- A pattern is reported exactly when the rule is refused for it. -/
  pattern : extraction.error? = some .pattern ↔
    ∃ source cause, Rule.parse text = .error (.pattern source cause)

end Extraction

/-! ## Data -/

private theorem Value.compact_of_success? {value kept : Value}
    (found : value.success? = some kept) : kept.Compact := by
  cases value with
  | scalar item =>
      rw [success?] at found
      split at found
      · contradiction
      · next present =>
          obtain rfl := Option.some.inj found
          rw [Primitive.isNull_iff] at present
          exact .scalar present
  | sequence items =>
      rw [success?] at found
      split at found
      · contradiction
      · next present =>
          obtain rfl := Option.some.inj found
          refine .sequence (by simpa using present) fun member => ?_
          simpa [Primitive.isNull] using (List.mem_filter.mp member).2

private theorem Extraction.ofRule_ofValue (policy : ZipPolicy) (value : Value) :
    (ofValue value).OfRule policy where
  exclusive := .inr (error?_ofValue value)
  compact _ found := Value.compact_of_success? found
  known := nofun
  strict := nofun
  formed := nofun
  compiled := nofun

/-! ## Errors -/

/-- An evaluation reports no family, no malformed rule and no pattern. -/
theorem EvalError.kind_cases (error : EvalError) :
    error.kind = .documentMismatch ∨ error.kind = .selectorSyntax ∨
      error.kind = .lengthMismatch ∧ ∃ lengths, error = .lengthMismatch lengths := by
  cases error with
  | documentMismatch selector document => exact .inl rfl
  | invalidDocument expected reason => exact .inl rfl
  | query error => exact .inr (.inl rfl)
  | lengthMismatch lengths => exact .inr (.inr ⟨rfl, lengths, rfl⟩)

private theorem Extraction.ofRule_failed {policy : ZipPolicy} {error : EvalError}
    (strict : ∀ lengths, error = .lengthMismatch lengths → policy = .error) :
    (failed error.kind).OfRule policy := by
  have kinds := error.kind_cases
  refine ⟨⟨.inl (value?_failed _), nofun, ?_, fun reported => ?_⟩, ?_, ?_⟩
  · rcases kinds with kind | kind | ⟨kind, -⟩ <;> simp [kind]
  · have kind : error.kind = .lengthMismatch := Option.some.inj reported
    rcases kinds with other | other | ⟨-, lengths, same⟩
    · simp [kind] at other
    · simp [kind] at other
    · exact strict lengths same
  · rcases kinds with kind | kind | ⟨kind, -⟩ <;> simp [kind]
  · rcases kinds with kind | kind | ⟨kind, -⟩ <;> simp [kind]

/-- A malformed rule is reported as such, and as an invalid pattern if that is what is wrong. -/
theorem RuleError.kind_cases (error : RuleError) :
    error.kind = .malformedRule ∧ (∀ source cause, error ≠ .pattern source cause) ∨
      error.kind = .pattern ∧ ∃ source cause, error = .pattern source cause := by
  cases error with
  | pattern source cause => exact .inr ⟨rfl, source, cause, rfl⟩
  | _ => exact .inl ⟨rfl, nofun⟩

namespace Extraction

variable {policy : ZipPolicy} {text : String} {extraction : Extraction}

private theorem ofText_of_refused {error : RuleError} (refused : Rule.parse text = .error error) :
    (failed error.kind).OfText policy text := by
  rcases error.kind_cases with ⟨kind, other⟩ | ⟨kind, source, cause, rfl⟩
  · refine ⟨⟨.inl (value?_failed _), nofun, by simp [kind], by simp [kind]⟩, ?_, ?_⟩
    · exact iff_of_true (.inl (by simp [kind])) ⟨error, refused⟩
    · refine iff_of_false (by simp [kind]) ?_
      rintro ⟨source, cause, same⟩
      exact other source cause (Except.error.inj (refused.symm.trans same))
  · refine ⟨⟨.inl (value?_failed _), nofun, nofun, nofun⟩, ?_, ?_⟩
    · exact iff_of_true (.inr rfl) ⟨_, refused⟩
    · exact iff_of_true rfl ⟨source, cause, refused⟩

/-- Where the text spells a rule, its extraction is one of that rule. -/
theorem OfRule.ofText {rule : Rule} (shaped : extraction.OfRule policy)
    (read : Rule.parse text = .ok rule) : extraction.OfText policy text := by
  refine { shaped with refused := ?_, pattern := ?_ }
  · refine iff_of_false (not_or.mpr ⟨shaped.formed, shaped.compiled⟩) ?_
    rintro ⟨error, refused⟩
    rw [read] at refused
    contradiction
  · refine iff_of_false shaped.compiled ?_
    rintro ⟨source, cause, refused⟩
    rw [read] at refused
    contradiction

end Extraction

/-! ## Calls -/

namespace Engine

variable {Tree : Type} {engine : Engine Tree}

/-- A source can only be refused for not being what it is declared as. -/
theorem exists_invalidDocument_of_load {source : String} {declared : Option DocumentKind}
    {error : EvalError} (failed : engine.load source declared = .error error) :
    ∃ expected reason, error = .invalidDocument expected reason := by
  unfold load at failed
  split at failed
  · contradiction
  · contradiction
  · split at failed
    · contradiction
    · split at failed
      · exact ⟨_, _, (Except.error.inj failed).symm⟩
      · split at failed <;> contradiction

private theorem ofRule_parseRule (engine : Engine Tree) (document : Document Tree) (rule : Rule) :
    (engine.parseRule document rule).OfRule engine.config.zipPolicy := by
  rw [parseRule, valueOf]
  cases evaluated : engine.evaluate document rule with
  | ok outcome => exact Extraction.ofRule_ofValue _ outcome.value
  | error error =>
      refine Extraction.ofRule_failed fun lengths same => ?_
      rw [same] at evaluated
      exact Rule.zipPolicy_of_lengthMismatch evaluated

private theorem ofText_plainValue (engine : Engine Tree) (document : Document Tree)
    (text : String) :
    (Extraction.ofResult (engine.plainValue document text)).OfText engine.config.zipPolicy
      text := by
  cases read : Rule.parse text with
  | error error =>
      rw [plainValue, read]
      exact Extraction.ofText_of_refused read
  | ok rule =>
      rw [← parseRule_eq read]
      exact (ofRule_parseRule engine document rule).ofText read

private theorem ofText_plainExtraction (engine : Engine Tree) (source : String)
    (declared : Option DocumentKind) (text : String) :
    (engine.plainExtraction source declared text).OfText engine.config.zipPolicy text := by
  cases read : Rule.parse text with
  | error error =>
      rw [plainExtraction, read]
      exact Extraction.ofText_of_refused read
  | ok rule =>
      rw [plainExtraction, read]
      cases loaded : engine.load source declared with
      | error error =>
          obtain ⟨expected, reason, rfl⟩ := exists_invalidDocument_of_load loaded
          have shaped : (Extraction.failed
              (EvalError.invalidDocument expected reason).kind).OfRule engine.config.zipPolicy :=
            Extraction.ofRule_failed fun lengths same => by contradiction
          exact shaped.ofText read
      | ok document => exact ofText_plainValue engine document text

/-- After any history, every extraction of an engine has its shape: data or an error, data without
nulls, a different length only where lengths must agree, and a malformed rule or an invalid pattern
exactly where the text of the rule is refused for that. -/
theorem extractions_shaped (config : EngineConfig) (backends : Backends Tree)
    (history : List (Call Tree)) (source : String) (declared : Option DocumentKind)
    (document : Document Tree) (text : String) (rule : Rule) :
    let engine := (build config backends).after history
    (engine.parse source declared text).1.OfText config.zipPolicy text ∧
      (engine.parseDocument document text).1.OfText config.zipPolicy text ∧
      (engine.parseDetailed document text).1.extraction.OfText config.zipPolicy text ∧
      (engine.parseRule document rule).OfRule config.zipPolicy := by
  intro engine
  have alike : Alike engine (build config backends) := alike_after config backends history []
  have policy : engine.config.zipPolicy = config.zipPolicy := alike.zipPolicy
  rw [parse_fst alike.left, parseDocument_fst alike.left, parseDetailed_extraction alike.left,
    ← policy]
  exact ⟨ofText_plainExtraction engine source declared text,
    ofText_plainValue engine document text, ofText_plainValue engine document text,
    ofRule_parseRule engine document rule⟩

end Engine

end Gleaner
