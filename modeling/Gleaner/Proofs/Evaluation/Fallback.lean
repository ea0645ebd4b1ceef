import Gleaner.Proofs.Evaluation.Faults

/-!
# Fallback

The chains of a rule are tried in order, and the first one that succeeds gives its value to the
rule.  Chains that were tried in vain only move the number of that chain, and chains behind it are
never looked at.
-/

namespace Gleaner

/-- The outcome as it is where so many other chains have been tried in vain before. -/
def Outcome.after (others : Nat) (outcome : Outcome) : Outcome where
  value := outcome.value
  matchedGroup := outcome.matchedGroup.map (others + ·)
  attempts := others + outcome.attempts

/-- What comes of trying chains in order: the value of the first one that succeeds, or nothing if
all of them are tried in vain. -/
inductive FirstMatch (evaluate : Chain → Except EvalError Value) (chains : List Chain) :
    Outcome → Prop
  /-- The chain behind the ones that are tried in vain succeeds. -/
  | found {before after : List Chain} {chain : Chain} {value : Value}
      (split : chains = before ++ chain :: after)
      (vain : ∀ other ∈ before, Misses evaluate other)
      (evaluated : evaluate chain = .ok value) (success : value.isSuccess = true) :
      FirstMatch evaluate chains
        { value, matchedGroup := some before.length, attempts := before.length + 1 }
  /-- No chain succeeds. -/
  | exhausted (vain : ∀ chain ∈ chains, Misses evaluate chain) :
      FirstMatch evaluate chains
        { value := .null, matchedGroup := none, attempts := chains.length }

section

variable {evaluate : Chain → Except EvalError Value}

theorem not_misses_of_isSuccess {chain : Chain} {value : Value}
    (evaluated : evaluate chain = .ok value) (success : value.isSuccess = true) :
    ¬Misses evaluate chain := by
  rintro ⟨other, same, failure⟩
  obtain rfl := Except.ok.inj (evaluated.symm.trans same)
  rw [failure] at success
  contradiction

theorem not_misses_of_error {chain : Chain} {error : EvalError}
    (failed : evaluate chain = .error error) : ¬Misses evaluate chain := by
  rintro ⟨value, evaluated, -⟩
  rw [failed] at evaluated
  contradiction

private theorem tryChains_add (evaluate : Chain → Except EvalError Value) (others index : Nat)
    (chains : List Chain) :
    tryChains evaluate (others + index) chains =
      (tryChains evaluate index chains).map (Outcome.after others) := by
  induction chains generalizing index with
  | nil => rfl
  | cons chain chains ih =>
      rw [tryChains_cons, tryChains_cons]
      cases evaluate chain with
      | error error => rfl
      | ok value =>
          dsimp only
          split
          · rfl
          · exact ih (index + 1)

/-- Trying more chains behind some is trying them where those were tried in vain. -/
theorem tryChains_append (index : Nat) (front behind : List Chain) :
    tryChains evaluate index (front ++ behind) =
      match tryChains evaluate index front with
      | .error error => .error error
      | .ok outcome =>
          if outcome.matchedGroup = none then tryChains evaluate (index + front.length) behind
          else .ok outcome := by
  induction front generalizing index with
  | nil => rfl
  | cons chain front ih =>
      rw [List.cons_append, tryChains_cons, tryChains_cons]
      cases evaluate chain with
      | error error => rfl
      | ok value =>
          dsimp only
          split
          · rfl
          · rw [ih, List.length_cons, Nat.add_assoc, Nat.add_comm 1]

private theorem tryChains_of_vain {chains : List Chain} (index : Nat)
    (vain : ∀ chain ∈ chains, Misses evaluate chain) :
    tryChains evaluate index chains =
      .ok { value := .null, matchedGroup := none, attempts := index + chains.length } := by
  induction chains generalizing index with
  | nil => rfl
  | cons chain chains ih =>
      obtain ⟨⟨value, evaluated, failure⟩, rest⟩ := List.forall_mem_cons.mp vain
      simp only [tryChains_cons, evaluated, failure, Bool.false_eq_true, if_false,
        ih (index + 1) rest, List.length_cons, Nat.add_assoc, Nat.add_comm 1]

/-- A chain that is tried in vain leaves the match to the chains behind it. -/
theorem FirstMatch.cons {chain : Chain} {chains : List Chain} {outcome : Outcome}
    (vain : Misses evaluate chain) (rest : FirstMatch evaluate chains outcome) :
    FirstMatch evaluate (chain :: chains) (outcome.after 1) := by
  cases rest with
  | @found before after other value split miss evaluated success =>
      have first : FirstMatch evaluate (chain :: chains)
          { value, matchedGroup := some (chain :: before).length,
            attempts := (chain :: before).length + 1 } :=
        .found (by rw [split, List.cons_append]) (List.forall_mem_cons.mpr ⟨vain, miss⟩) evaluated
          success
      simpa [Outcome.after, Nat.add_comm 1] using first
  | exhausted miss =>
      have none : FirstMatch evaluate (chain :: chains)
          { value := .null, matchedGroup := none, attempts := (chain :: chains).length } :=
        .exhausted (List.forall_mem_cons.mpr ⟨vain, miss⟩)
      simpa [Outcome.after, Nat.add_comm 1] using none

private theorem firstMatch_of_tryChains {chains : List Chain} {outcome : Outcome}
    (done : tryChains evaluate 0 chains = .ok outcome) : FirstMatch evaluate chains outcome := by
  induction chains generalizing outcome with
  | nil =>
      obtain rfl := Except.ok.inj done
      exact .exhausted (by simp)
  | cons chain chains ih =>
      rw [tryChains_cons] at done
      cases evaluated : evaluate chain with
      | error error => simp [evaluated] at done
      | ok value =>
          cases success : value.isSuccess with
          | true =>
              simp only [evaluated, success, if_true, Except.ok.injEq] at done
              subst done
              exact @FirstMatch.found evaluate _ [] chains chain value rfl nofun evaluated success
          | false =>
              simp only [evaluated, success, Bool.false_eq_true, if_false] at done
              rw [Nat.add_comm, tryChains_add] at done
              cases rest : tryChains evaluate 0 chains with
              | error error => simp [rest, Except.map] at done
              | ok behind =>
                  rw [rest] at done
                  obtain rfl := Except.ok.inj done
                  exact (ih rest).cons ⟨value, evaluated, success⟩

/-- Chains have an outcome exactly when it is that of the first one that succeeds. -/
theorem tryChains_eq_ok_iff {chains : List Chain} {outcome : Outcome} :
    tryChains evaluate 0 chains = .ok outcome ↔ FirstMatch evaluate chains outcome := by
  constructor
  · exact firstMatch_of_tryChains
  · intro first
    cases first with
    | found split vain evaluated success =>
        rw [split, tryChains_append, tryChains_of_vain 0 vain]
        simp [tryChains_cons, evaluated, success]
    | exhausted vain => simpa using tryChains_of_vain 0 vain

/-- No chain that succeeds is passed over. -/
theorem FirstMatch.exists_le {chains before after : List Chain} {outcome : Outcome}
    (first : FirstMatch evaluate chains outcome) {chain : Chain} {value : Value}
    (split : chains = before ++ chain :: after) (evaluated : evaluate chain = .ok value)
    (success : value.isSuccess = true) :
    ∃ group ≤ before.length, outcome.matchedGroup = some group := by
  have sound := not_misses_of_isSuccess evaluated success
  cases first with
  | exhausted vain => exact absurd (vain chain (by simp [split])) sound
  | @found front behind other value around vain _ _ =>
      refine ⟨front.length, ?_, rfl⟩
      by_contra beyond
      have inside : (front ++ other :: behind)[before.length]? = front[before.length]? :=
        List.getElem?_append_left (by omega)
      have here : front[before.length]? = some chain := by
        rw [← inside, ← around, split]
        simp
      exact sound (vain chain (List.mem_of_getElem? here))

private theorem FirstMatch.take_append {chains : List Chain} {outcome : Outcome}
    (first : FirstMatch evaluate chains outcome) {group : Nat}
    (matched : outcome.matchedGroup = some group) (others : List Chain) :
    FirstMatch evaluate (chains.take (group + 1) ++ others) outcome := by
  cases first with
  | exhausted vain => contradiction
  | @found before after chain value split vain evaluated success =>
      obtain rfl := Option.some.inj matched
      have again : chains.take (before.length + 1) ++ others = before ++ chain :: others := by
        rw [split, List.append_cons, List.take_left' (by simp), ← List.append_cons]
      exact .found again vain evaluated success

end

variable {Tree : Type}

/-- Fallback is composition that prefers the left: more chains behind a rule's are tried only if
none of its own fails or succeeds, and then as a rule of their own.  So a rule has the value of its
first chain that succeeds, as it is, whatever stands behind that chain. -/
theorem Rule.evaluate_append_groups (backends : Backends Tree) (config : EngineConfig)
    (document : Document Tree) (front behind : List Chain) :
    let evaluate (groups : List Chain) := Rule.evaluate backends config document { groups }
    (∀ error, evaluate front = .error error → evaluate (front ++ behind) = .error error) ∧
      (∀ outcome, evaluate front = .ok outcome → outcome.matchedGroup ≠ none →
        evaluate (front ++ behind) = .ok outcome) ∧
      (∀ outcome, evaluate front = .ok outcome → outcome.matchedGroup = none →
        evaluate (front ++ behind) = (evaluate behind).map (Outcome.after front.length)) ∧
      (∀ outcome, evaluate front = .ok outcome ↔
        FirstMatch (Chain.evaluate backends config document) front outcome) ∧
      ∀ outcome group, evaluate front = .ok outcome → outcome.matchedGroup = some group →
        ∀ others, evaluate (front.take (group + 1) ++ others) = .ok outcome := by
  intro evaluate
  have whole : evaluate (front ++ behind) = _ := tryChains_append 0 front behind
  rw [whole]
  refine ⟨fun error failed => ?_, fun outcome done matched => ?_, fun outcome done none => ?_,
    fun outcome => tryChains_eq_ok_iff, fun outcome group done matched others => ?_⟩
  · simp only [show tryChains _ 0 front = _ from failed]
  · simp only [show tryChains _ 0 front = _ from done, if_neg matched]
  · simp only [show tryChains _ 0 front = _ from done, if_pos none]
    rw [Nat.add_comm]
    exact tryChains_add _ front.length 0 behind
  · exact tryChains_eq_ok_iff.mpr ((tryChains_eq_ok_iff.mp done).take_append matched others)

/-- A list with a null behind a chain that misses, in front of a chain that fails, and behind it. -/
theorem Rule.evaluate_append_of_list :
    let found (query : String) : List (Option String) :=
      if query = ".a" then [] else [none, some "x"]
    let backends : Backends Unit :=
      { markup := { load := fun _ => (), queryAll := fun _ query _ => .ok (found query) }
        path := jsonPathBackend }
    let evaluate (groups : List Chain) := Rule.evaluate backends {} (.html "" ()) { groups }
    let missed : List Chain := [{ terms := [{ selector := .css ".a" .text }] }]
    let listed : List Chain := [{ terms := [{ selector := .css ".b" .text }] }]
    let broken : List Chain := [{ terms := [{ selector := .json "$" }] }]
    let outcome : Outcome :=
      { value := .sequence [.null, .string "x"], matchedGroup := some 0, attempts := 1 }
    let error : EvalError := .documentMismatch .json .html
    evaluate missed = .ok { value := .null, matchedGroup := none, attempts := 1 } ∧
      evaluate (missed ++ listed) = .ok (outcome.after 1) ∧
      evaluate listed = .ok outcome ∧ evaluate (listed ++ broken) = .ok outcome ∧
      evaluate (listed.take 1 ++ broken) = .ok outcome ∧
      evaluate broken = .error error ∧ evaluate (broken ++ listed) = .error error := by
  intro found backends evaluate missed listed broken outcome error
  have missing : evaluate missed = .ok { value := .null, matchedGroup := none, attempts := 1 } := by
    decide
  have listing : evaluate listed = .ok outcome := by decide
  have failing : evaluate broken = .error error := by decide
  obtain ⟨-, -, behind, -⟩ := evaluate_append_groups backends {} (.html "" ()) missed listed
  obtain ⟨-, matched, -, -, others⟩ :=
    evaluate_append_groups backends {} (.html "" ()) listed broken
  obtain ⟨failed, -⟩ := evaluate_append_groups backends {} (.html "" ()) broken listed
  have later : evaluate (missed ++ listed) = (evaluate listed).map (Outcome.after 1) :=
    behind _ missing rfl
  rw [listing] at later
  exact ⟨missing, later, listing, matched _ listing nofun, others _ 0 listing rfl broken, failing,
    failed _ failing⟩

end Gleaner
