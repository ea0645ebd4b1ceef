import Gleaner.Proofs.Engine.Agreement
import Gleaner.Proofs.Evaluation.Fallback
import Gleaner.Proofs.Value.Join

/-!
# Reports

A report names the chain that gave its data, and how many chains were evaluated.  Both agree with
the data: there are data exactly where there is a chain that gave them.
-/

namespace Gleaner

/-- What counts as a match is what is left when nulls are dropped. -/
theorem Value.isSuccess_iff_success? (value : Value) :
    value.isSuccess = true ↔ ∃ kept, value.success? = some kept := by
  cases value with
  | scalar item => cases null : item.isNull <;> simp [isSuccess, success?, null]
  | sequence items => simp [isSuccess, success?]

/-- An outcome has a match exactly where its value counts as one; the match is one of the chains,
and the last that was evaluated. -/
private theorem FirstMatch.consistent {evaluate : Chain → Except EvalError Value}
    {chains : List Chain} {outcome : Outcome} (first : FirstMatch evaluate chains outcome) :
    (outcome.value.isSuccess = true ↔ outcome.matchedGroup.isSome = true) ∧
      (∀ group, outcome.matchedGroup = some group →
        group < chains.length ∧ outcome.attempts = group + 1) ∧
      (outcome.matchedGroup = none → outcome.attempts = chains.length) := by
  cases first with
  | found split vain evaluated success =>
      refine ⟨by simp [success], fun group matched => ?_, nofun⟩
      obtain rfl := Option.some.inj matched
      simp [split]
  | exhausted vain =>
      refine ⟨?_, nofun, fun _ => rfl⟩
      simp [Value.null, Value.isSuccess, Primitive.isNull]

/-- What a report on the text of a rule can be. -/
inductive Report.Of {Tree : Type} (engine : Engine Tree) (document : Document Tree)
    (text : String) : Report → Prop
  /-- The text spells no rule. -/
  | refused {error : RuleError} {cacheHit : Bool} (refused : Rule.parse text = .error error) :
      Of engine document text
        { extraction := .failed error.kind, matchedGroup := none, attempts := 0, cacheHit }
  /-- The rule cannot be evaluated. -/
  | failed {rule : Rule} {error : EvalError} {cacheHit : Bool}
      (read : Rule.parse text = .ok rule)
      (failed : engine.evaluate document rule = .error error) :
      Of engine document text
        { extraction := .failed error.kind, matchedGroup := none, attempts := 0, cacheHit }
  /-- The rule has an outcome. -/
  | evaluated {rule : Rule} {outcome : Outcome} {cacheHit : Bool}
      (read : Rule.parse text = .ok rule)
      (evaluated : engine.evaluate document rule = .ok outcome) :
      Of engine document text
        { extraction := .ofValue outcome.value, matchedGroup := outcome.matchedGroup,
          attempts := outcome.attempts, cacheHit }

namespace Engine

variable {Tree : Type}

theorem report_of_parseDetailed {engine : Engine Tree} (valid : engine.cache.Valid)
    (document : Document Tree) (text : String) :
    (engine.parseDetailed document text).1.Of engine document text := by
  obtain ⟨hit, found⟩ := exists_lookup_eq valid text
  have same (rule : Rule) : (engine.remembering text).evaluate document rule =
      engine.evaluate document rule := rfl
  rw [parseDetailed, found]
  cases read : Rule.parse text with
  | error error => exact .refused read
  | ok rule =>
      simp only [Except.map, same]
      cases evaluated : engine.evaluate document rule with
      | error error => exact .failed read evaluated
      | ok outcome => exact .evaluated read evaluated

/-- Whatever an engine has been asked before, its reports agree with their data: with an error there
is no match; without one there are data exactly where there is a match, which is the last chain
that was evaluated, and where there is none all chains were. -/
theorem reports_consistent (config : EngineConfig) (backends : Backends Tree)
    (history : List (Call Tree)) (document : Document Tree) (text : String) :
    let report := (((build config backends).after history).parseDetailed document text).1
    (∀ kind, report.extraction.error? = some kind → report.matchedGroup = none) ∧
      (report.extraction.error? = none →
        ∃ rule, Rule.parse text = .ok rule ∧
          (report.matchedGroup.isSome = true ↔ ∃ data, report.extraction.value? = some data) ∧
          (∀ group, report.matchedGroup = some group →
            group < rule.groups.length ∧ report.attempts = group + 1) ∧
          (report.matchedGroup = none →
            report.extraction.value? = none ∧ report.attempts = rule.groups.length)) ∧
      ∀ value : Value, value.isSuccess = true ↔ ∃ kept, value.success? = some kept := by
  intro report
  have alike := alike_after config backends history []
  have given : report.Of _ document text := report_of_parseDetailed alike.left document text
  clear_value report
  refine ⟨fun kind failed => ?_, fun sound => ?_, Value.isSuccess_iff_success?⟩
  · cases given with
    | refused | failed => rfl
    | evaluated => contradiction
  · cases given with
    | refused | failed => contradiction
    | @evaluated rule outcome hit read evaluated =>
        obtain ⟨matches_iff, numbered, exhausted⟩ := (tryChains_eq_ok_iff.mp evaluated).consistent
        rw [Value.isSuccess_iff_success?] at matches_iff
        refine ⟨rule, read, matches_iff.symm, numbered, fun missed => ⟨?_, exhausted missed⟩⟩
        refine Option.eq_none_iff_forall_ne_some.mpr fun data found => ?_
        have matched := matches_iff.mp ⟨data, found⟩
        rw [show outcome.matchedGroup = none from missed] at matched
        contradiction

/-- A match behind a miss, a miss of all chains, and a rule that does not fit the document. -/
theorem reports_consistent_on_markup :
    let backends : Backends Unit :=
      { markup :=
          { load := fun _ => ()
            queryAll := fun _ query _ => .ok (if query = ".a" then [] else [none, some "x"]) }
        path := jsonPathBackend }
    let engine := (build {} backends).after [.compile "@css:.b"]
    let report (text : String) : Report := (engine.parseDetailed (.html "" ()) text).1
    let second := report "@css:.a || @css:.b"
    let missed := report "@css:.a"
    let unfit := report "@json:$"
    (second.extraction.error? = none ∧ second.matchedGroup = some 1 ∧
        ∃ rule, Rule.parse "@css:.a || @css:.b" = .ok rule ∧
          (∃ data, second.extraction.value? = some data) ∧ 1 < rule.groups.length ∧
            second.attempts = 2) ∧
      (missed.extraction.error? = none ∧ missed.matchedGroup = none ∧
        ∃ rule, Rule.parse "@css:.a" = .ok rule ∧ missed.extraction.value? = none ∧
          missed.attempts = rule.groups.length) ∧
      unfit.extraction.error? = some .documentMismatch ∧ unfit.matchedGroup = none := by
  intro backends engine report second missed unfit
  have consistent (text : String) :=
    reports_consistent {} backends [.compile "@css:.b"] (.html "" ()) text
  have sound : second.extraction.error? = none ∧ second.matchedGroup = some 1 := by decide
  have absent : missed.extraction.error? = none ∧ missed.matchedGroup = none := by decide
  have mismatch : unfit.extraction.error? = some .documentMismatch := by decide
  obtain ⟨rule, read, present, numbered, -⟩ := (consistent "@css:.a || @css:.b").2.1 sound.1
  obtain ⟨other, spelled, -, -, exhausted⟩ := (consistent "@css:.a").2.1 absent.1
  exact ⟨⟨sound.1, sound.2, rule, read, present.mp (congrArg Option.isSome sound.2),
      numbered 1 sound.2⟩,
    ⟨absent.1, absent.2, other, spelled, exhausted absent.2⟩,
    mismatch, (consistent "@json:$").1 _ mismatch⟩

end Engine

end Gleaner
