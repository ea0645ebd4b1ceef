import Gleaner.Markup
import Gleaner.Proofs.Engine.Reports
import Gleaner.Proofs.Rule.WellFormed

/-!
# Attempts

Evaluation starts a chain as long as all chains before it are tried in vain.  A report counts the
chains that were started, but a chain that fails takes the count with it.
-/

namespace Gleaner

section

variable {evaluate : Chain → Except EvalError Value} {chains before after : List Chain}
  {chain : Chain}

variable (evaluate) in
/-- The chain at the index is started: all chains before it are tried in vain. -/
def Started (chains : List Chain) (index : Nat) : Prop :=
  index < chains.length ∧ ∀ chain ∈ chains.take index, Misses evaluate chain

private theorem started_iff_of_vain (vain : ∀ chain ∈ chains, Misses evaluate chain) (index : Nat) :
    Started evaluate chains index ↔ index < chains.length :=
  ⟨fun started => started.1, fun inside => ⟨inside, fun chain member =>
    vain chain (List.mem_of_mem_take member)⟩⟩

private theorem started_iff_of_split (split : chains = before ++ chain :: after)
    (vain : ∀ other ∈ before, Misses evaluate other) (stops : ¬Misses evaluate chain)
    (index : Nat) : Started evaluate chains index ↔ index < before.length + 1 := by
  subst split
  constructor
  · rintro ⟨-, tried⟩
    by_contra beyond
    have reached : chain ∈ (before ++ chain :: after).take index := by
      have behind : before ++ [chain] <+: (before ++ chain :: after).take index := by
        rw [List.prefix_take_iff]
        exact ⟨⟨after, by simp⟩, by simpa using Nat.le_of_not_lt beyond⟩
      exact behind.subset (by simp)
    exact stops (tried chain reached)
  · intro inside
    have front : (before ++ chain :: after).take index = before.take index :=
      List.take_append_of_le_length (Nat.lt_succ_iff.mp inside)
    refine ⟨by simp only [List.length_append, List.length_cons]; omega, fun other member => ?_⟩
    rw [front] at member
    exact vain other (List.mem_of_mem_take member)

private theorem FirstMatch.started_iff {outcome : Outcome}
    (first : FirstMatch evaluate chains outcome) (index : Nat) :
    Started evaluate chains index ↔ index < outcome.attempts := by
  cases first with
  | found split vain evaluated success =>
      exact started_iff_of_split split vain (not_misses_of_isSuccess evaluated success) index
  | exhausted vain => exact started_iff_of_vain vain index

private theorem exists_started_iff_of_error {error : EvalError}
    (failed : tryChains evaluate 0 chains = .error error) :
    ∃ last chain, chains[last]? = some chain ∧ evaluate chain = .error error ∧
      ∀ index, Started evaluate chains index ↔ index < last + 1 := by
  obtain ⟨before, chain, after, split, vain, fails⟩ := tryChains_eq_error_iff.mp failed
  have stops := started_iff_of_split split vain (not_misses_of_error fails)
  exact ⟨before.length, chain, by simp [split], fails, stops⟩

end

namespace Engine

variable {Tree : Type}

/-- The attempts of a report are the chains that were started, unless one of them failed; then there
are none, though it was started, and all chains before it.  There are none for a text that is no
rule either. -/
theorem attempts_iff_started (config : EngineConfig) (backends : Backends Tree)
    (history : List (Call Tree)) (document : Document Tree) (text : String) :
    let engine := (build config backends).after history
    let report := (engine.parseDetailed document text).1
    let evaluate := Chain.evaluate engine.backends engine.config document
    (∀ error, Rule.parse text = .error error → report.attempts = 0) ∧
      ∀ rule, Rule.parse text = .ok rule →
        ∃ count, 0 < count ∧ (∀ index, Started evaluate rule.groups index ↔ index < count) ∧
          (report.attempts = count ↔ report.extraction.error? = none) ∧
          ∀ kind, report.extraction.error? = some kind →
            report.attempts = 0 ∧ ∃ chain error, rule.groups[count - 1]? = some chain ∧
              evaluate chain = .error error ∧ error.kind = kind := by
  intro engine report evaluate
  have alike := alike_after config backends history []
  have given : report.Of engine document text := report_of_parseDetailed alike.left document text
  clear_value report
  refine ⟨fun error refused => ?_, fun rule read => ?_⟩
  · cases given with
    | refused => rfl
    | failed read | evaluated read => cases refused.symm.trans read
  · cases given with
    | refused refused => cases refused.symm.trans read
    | failed same failed =>
        obtain rfl := Except.ok.inj (read.symm.trans same)
        obtain ⟨last, chain, there, fails, started⟩ := exists_started_iff_of_error failed
        refine ⟨last + 1, Nat.succ_pos last, started, ?_, ?_⟩
        · simp
        · rintro kind ⟨⟩
          exact ⟨rfl, chain, _, there, fails, rfl⟩
    | @evaluated _ outcome _ same evaluated =>
        obtain rfl := Except.ok.inj (read.symm.trans same)
        have started := (tryChains_eq_ok_iff.mp evaluated).started_iff
        have first : Started evaluate rule.groups 0 :=
          ⟨List.length_pos_of_ne_nil (Rule.wellFormed_of_parse read).groups, by simp⟩
        refine ⟨outcome.attempts, (started 0).mp first, started, ?_, nofun⟩
        simp

/-- A match behind a miss: the chain behind the match is neither started nor counted. -/
theorem attempts_iff_started_at_match :
    let engine := (build {} standardBackends).after [.compile "@text:a"]
    let document := Document.json (.object [("b", .bool true)])
    let text := "@json:$.a || @json:$.b || @css:p"
    let report := (engine.parseDetailed document text).1
    let evaluate := Chain.evaluate engine.backends engine.config document
    ∃ rule, Rule.parse text = .ok rule ∧ rule.groups.length = 3 ∧
      report.extraction.error? = none ∧ report.attempts = 2 ∧
      ∀ index, Started evaluate rule.groups index ↔ index < 2 := by
  intro engine document text report evaluate
  let rule : Rule :=
    { groups := [{ terms := [{ selector := .json "$.a" }] },
        { terms := [{ selector := .json "$.b" }] }, { terms := [{ selector := .css "p" .text }] }] }
  have read : Rule.parse text = .ok rule := by decide
  have sound : report.extraction.error? = none := by decide
  have two : report.attempts = 2 := by decide
  obtain ⟨count, -, started, counted, -⟩ :=
    (attempts_iff_started {} standardBackends [.compile "@text:a"] document text).2 rule read
  have same : report.attempts = count := counted.mpr sound
  rw [← same, two] at started
  exact ⟨rule, read, rfl, sound, two, started⟩

/-- A chain that fails behind one that is tried in vain: both are started, and none is counted. -/
theorem attempts_of_failing_chain :
    let engine := build {} standardBackends
    let document := Document.json (.object [])
    let text := "@json:$.a || @css:p"
    let report := (engine.parseDetailed document text).1
    let evaluate := Chain.evaluate engine.backends engine.config document
    ∃ rule, Rule.parse text = .ok rule ∧ 0 < rule.groups.length ∧
      (∀ index, Started evaluate rule.groups index ↔ index < 2) ∧ report.attempts = 0 ∧
      ¬∀ index, Started evaluate rule.groups index ↔ index < report.attempts := by
  intro engine document text report evaluate
  let missed : Chain := { terms := [{ selector := .json "$.a" }] }
  let broken : Chain := { terms := [{ selector := .css "p" .text }] }
  have read : Rule.parse text = .ok { groups := [missed, broken] } := by decide
  have uncounted : report.attempts = 0 := by decide
  have vain : Misses evaluate missed := ⟨.null, by decide, rfl⟩
  have failed : evaluate broken = .error (.documentMismatch .css .json) := by decide
  have split : [missed, broken] = [missed] ++ broken :: [] := rfl
  have started (index : Nat) : Started evaluate [missed, broken] index ↔ index < 2 :=
    started_iff_of_split split (by simpa using vain) (not_misses_of_error failed) index
  refine ⟨_, read, by decide, started, uncounted, fun counted => ?_⟩
  have first : 0 < report.attempts := (counted 0).mp ((started 0).mpr Nat.two_pos)
  omega

end Engine

end Gleaner
