import Gleaner.Proofs.Evaluation.Faults

/-!
# Policies for sequences of different lengths

The policies only decide what becomes of two sequences of different lengths.  Evaluations under
different policies take the same steps up to the first such pair, so they have the same outcome
unless the strict one ends there.
-/

namespace Gleaner

/-- The results are the same, unless the strict one is that lengths differ. -/
def SameUnlessUneven {α : Type} (strict other : Except EvalError α) : Prop :=
  (∃ lengths, strict = .error (.lengthMismatch lengths)) ∨ strict = other

/-! ## One value more -/

/-- Values that are joined under the strict policy are joined alike under every policy. -/
theorem Value.concat_of_strict {left right joined : Value}
    (joins : left.concat .error right = .ok joined) (policy : ZipPolicy) :
    left.concat policy right = .ok joined := by
  cases left with
  | scalar left => cases right <;> exact joins
  | sequence before =>
      cases right with
      | scalar right => exact joins
      | sequence here =>
          by_cases same : before.length = here.length
          · simpa [concat, joinSequences, same] using joins
          · simp [concat, joinSequences, same, Except.map] at joins

private theorem joinOnto_of_strict {merged : Option Value} {value joined : Value}
    (joins : joinOnto .error merged value = .ok joined) (policy : ZipPolicy) :
    joinOnto policy merged value = .ok joined := by
  cases merged with
  | none => exact joins
  | some before => exact Value.concat_of_strict joins policy

/-! ## Terms and chains -/

private theorem mergeTerms_sameUnlessUneven (policy : ZipPolicy)
    (resolve : Term → Except EvalError Value) (merged : Option Value) (terms : List Term) :
    SameUnlessUneven (mergeTerms .error resolve merged terms)
      (mergeTerms policy resolve merged terms) := by
  induction terms generalizing merged with
  | nil => exact .inr rfl
  | cons term terms ih =>
      rw [mergeTerms_cons, mergeTerms_cons]
      cases resolve term with
      | error error => exact .inr rfl
      | ok value =>
          dsimp only
          cases joins : joinOnto .error merged value.absentAsNull with
          | error lengths => exact .inl ⟨lengths, rfl⟩
          | ok joined =>
              rw [joinOnto_of_strict joins policy]
              exact ih (some joined)

private theorem tryChains_sameUnlessUneven {strict other : Chain → Except EvalError Value}
    (each : ∀ chain, SameUnlessUneven (strict chain) (other chain)) (index : Nat)
    (chains : List Chain) :
    SameUnlessUneven (tryChains strict index chains) (tryChains other index chains) := by
  induction chains generalizing index with
  | nil => exact .inr rfl
  | cons chain chains ih =>
      rw [tryChains_cons, tryChains_cons]
      obtain ⟨lengths, uneven⟩ | same := each chain
      · rw [uneven]
        exact .inl ⟨lengths, rfl⟩
      · rw [← same]
        cases strict chain with
        | error error => exact .inr rfl
        | ok value =>
            -- the one value decides in both runs whether the next chain is tried
            dsimp only
            split
            · exact .inr rfl
            · exact ih (index + 1)

variable {Tree : Type}

theorem Rule.evaluate_sameUnlessUneven (backends : Backends Tree) (config : EngineConfig)
    (document : Document Tree) (rule : Rule) (policy : ZipPolicy) :
    SameUnlessUneven (rule.evaluate backends { config with zipPolicy := .error } document)
      (rule.evaluate backends { config with zipPolicy := policy } document) :=
  tryChains_sameUnlessUneven
    (fun chain => mergeTerms_sameUnlessUneven policy
      (Term.resolve backends config.trimText document) none chain.terms) 0 rule.groups

/-- The policies have one and the same outcome, a failure included, unless under the strict policy
lengths are the reason of a failure; under the other policies they never are. -/
theorem Rule.evaluate_under_policies (backends : Backends Tree) (config : EngineConfig)
    (document : Document Tree) (rule : Rule) :
    let run (policy : ZipPolicy) :=
      rule.evaluate backends { config with zipPolicy := policy } document
    ((∀ lengths, run .error ≠ .error (.lengthMismatch lengths)) →
        run .truncate = run .error ∧ run .pad = run .error) ∧
      ∀ lengths, run .truncate ≠ .error (.lengthMismatch lengths) ∧
        run .pad ≠ .error (.lengthMismatch lengths) := by
  intro run
  have same (policy : ZipPolicy) := evaluate_sameUnlessUneven backends config document rule policy
  refine ⟨fun even => ?_, fun lengths => ⟨fun failed => ?_, fun failed => ?_⟩⟩
  · have agrees (policy : ZipPolicy) : run policy = run .error := by
      obtain ⟨lengths, uneven⟩ | agree := same policy
      · exact absurd uneven (even lengths)
      · exact agree.symm
    exact ⟨agrees .truncate, agrees .pad⟩
  · exact nomatch zipPolicy_of_lengthMismatch failed
  · exact nomatch zipPolicy_of_lengthMismatch failed

/-- Lists of one length in a chain that misses and in the one that is found, in front of uneven
lists.  Where uneven lists come first, each policy has another outcome. -/
theorem Rule.evaluate_under_policies_of_lists :
    let found (query : String) : List (Option String) :=
      if query = ".a" then [none, none] else if query = ".b" then [none, some "x"]
      else [none, none, some "y"]
    let backends : Backends Unit :=
      { markup := { load := fun _ => (), queryAll := fun _ query _ => .ok (found query) }
        path := jsonPathBackend }
    let lists (left right : String) : Chain :=
      { terms := [{ selector := .css left .text }, { selector := .css right .text }] }
    let run (groups : List Chain) (policy : ZipPolicy) :=
      Rule.evaluate backends { zipPolicy := policy } (.html "" ()) { groups }
    let even := [lists ".a" ".a", lists ".a" ".b", lists ".a" ".c"]
    let uneven := [lists ".a" ".c", lists ".a" ".b"]
    let outcome : Outcome :=
      { value := .sequence [.null, .string "x"], matchedGroup := some 1, attempts := 2 }
    run even .error = .ok outcome ∧ run even .truncate = .ok outcome ∧
      run even .pad = .ok outcome ∧
      run uneven .error = .error (.lengthMismatch { left := 2, right := 3 }) ∧
      run uneven .truncate = .ok outcome ∧
      run uneven .pad =
        .ok { value := .sequence [.null, .null, .string "y"], matchedGroup := some 0
              attempts := 1 } := by
  intro found backends lists run even uneven outcome
  have strict : run even .error = .ok outcome := by decide
  obtain ⟨agree, -⟩ := evaluate_under_policies backends {} (.html "" ()) { groups := even }
  obtain ⟨truncated, padded⟩ := agree fun lengths failed => by
    cases strict.symm.trans failed
  exact ⟨strict, truncated.trans strict, padded.trans strict, by decide, by decide, by decide⟩

end Gleaner
