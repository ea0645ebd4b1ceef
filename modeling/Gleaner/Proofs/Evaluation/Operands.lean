import Gleaner.Proofs.Evaluation.Faults
import Gleaner.Proofs.Value.Merge
import Mathlib.Data.List.Forall2

/-!
# The operands of a chain

The operands of a chain are what its terms resolve to, with nothing in place of an empty sequence.
The chain has the value that its operands merge to.
-/

namespace Gleaner

section

variable {Tree : Type} {backends : Backends Tree} {config : EngineConfig}
  {document : Document Tree}

variable (backends config document) in
/-- The term resolves to the operand, with nothing in place of an empty sequence. -/
def Term.Finds (term : Term) (operand : Value) : Prop :=
  ∃ value, term.resolve backends config.trimText document = .ok value ∧
    value.absentAsNull = operand

variable (backends config document) in
/-- The terms of the chain all resolve, to these operands. -/
def Chain.Finds (chain : Chain) (operands : List Value) : Prop :=
  List.Forall₂ (Term.Finds backends config document) chain.terms operands

private theorem mergeTerms_eq_foldlM {terms : List Term} {operands : List Value}
    (found : List.Forall₂ (Term.Finds backends config document) terms operands) (merged : Value) :
    mergeTerms config.zipPolicy (Term.resolve backends config.trimText document) (some merged)
        terms =
      (operands.foldlM (Value.concat config.zipPolicy) merged).mapError .lengthMismatch := by
  induction found generalizing merged with
  | nil => rfl
  | @cons term operand terms operands here _ ih =>
      obtain ⟨value, resolved, rfl⟩ := here
      rw [mergeTerms_cons, resolved, List.foldlM_cons]
      dsimp only [joinOnto]
      cases merged.concat config.zipPolicy value.absentAsNull with
      | error lengths => rfl
      | ok joined => exact ih joined

theorem mergeTerms_eq_merged {terms : List Term} {operands : List Value}
    (found : List.Forall₂ (Term.Finds backends config document) terms operands) :
    mergeTerms config.zipPolicy (Term.resolve backends config.trimText document) none terms =
      (Operands.merged config.zipPolicy operands).mapError .lengthMismatch := by
  cases found with
  | nil => rfl
  | cons here behind =>
      obtain ⟨value, resolved, rfl⟩ := here
      rw [mergeTerms_cons, resolved, Operands.merged_cons]
      exact mergeTerms_eq_foldlM behind value.absentAsNull

/-- A chain with a value has operands. -/
theorem exists_finds_of_mergeTerms {terms : List Term} {before : Option Value} {value : Value}
    (done : mergeTerms config.zipPolicy (Term.resolve backends config.trimText document) before
      terms = .ok value) :
    ∃ operands, List.Forall₂ (Term.Finds backends config document) terms operands := by
  induction terms generalizing before with
  | nil => exact ⟨[], .nil⟩
  | cons term terms ih =>
      rw [mergeTerms_cons] at done
      split at done
      · contradiction
      · next found resolved =>
          split at done
          · contradiction
          · obtain ⟨operands, behind⟩ := ih done
            exact ⟨_, .cons ⟨found, resolved, rfl⟩ behind⟩

/-- The value of a chain whose terms all resolve has a closed form: one operand alone is its value;
scalars are joined to a scalar; and where there are sequences, each element joins what the operands
have at its index, as far as the policy for different lengths goes. -/
theorem Chain.evaluate_eq_merged (backends : Backends Tree) (config : EngineConfig)
    (document : Document Tree) (chain : Chain) (operands : List Value)
    (found : chain.Finds backends config document operands) :
    chain.evaluate backends config document =
      (Operands.merged config.zipPolicy operands).mapError .lengthMismatch :=
  mergeTerms_eq_merged found

/-- Of the scalars around two sequences that are filled up, the ones before the longer sequence do
not reach its last element. -/
theorem Chain.evaluate_of_filled_up :
    let found (query : String) : List (Option String) :=
      if query = ".a" then [some "1", some "2"] else [some "x", some "y", some "z"]
    let backends : Backends Unit :=
      { markup := { load := fun _ => (), queryAll := fun _ query _ => .ok (found query) }
        path := jsonPathBackend }
    let document : Document Unit := .html "" ()
    let chain : Chain :=
      { terms := [{ selector := .text "<" }, { selector := .css ".a" .text },
          { selector := .text "-" }, { selector := .css ".b" .text }, { selector := .text ">" }] }
    let operands : List Value :=
      [.scalar (.string "<"), .sequence [.string "1", .string "2"], .scalar (.string "-"),
        .sequence [.string "x", .string "y", .string "z"], .scalar (.string ">")]
    chain.Finds backends { zipPolicy := .pad } document operands ∧
      chain.evaluate backends { zipPolicy := .pad } document =
        .ok (.sequence [.string "<1-x>", .string "<2-y>", .string "z>"]) := by
  intro found backends document chain operands
  have finds : chain.Finds backends { zipPolicy := .pad } document operands :=
    .cons ⟨_, rfl, rfl⟩ (.cons ⟨_, rfl, rfl⟩ (.cons ⟨_, rfl, rfl⟩ (.cons ⟨_, rfl, rfl⟩
      (.cons ⟨_, rfl, rfl⟩ .nil))))
  refine ⟨finds, ?_⟩
  rw [evaluate_eq_merged backends { zipPolicy := .pad } document chain operands finds]
  decide

end

end Gleaner
