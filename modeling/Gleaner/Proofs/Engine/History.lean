import Gleaner.Proofs.Cache.Valid
import Gleaner.Session

/-!
# Histories of an engine

What an engine has been asked before bears on no answer: two engines that trim alike, zip alike
and query alike give the same answers, whatever they remember, except that a report tells whether
its rule was remembered.
-/

namespace Gleaner

/-- The report without the mark that the rule was remembered. -/
def Report.forgetHit (report : Report) : Report :=
  { report with cacheHit := false }

/-- The answer without the mark that the rule was remembered. -/
def Answer.forgetHit {Tree : Type} : Answer Tree → Answer Tree
  | report given => report given.forgetHit
  | other => other

namespace Engine

variable {Tree : Type} {left right : Engine Tree}

/-- The engines differ at most in what they remember, and both have valid caches. -/
structure Alike (left right : Engine Tree) : Prop where
  /-- Documents are queried alike. -/
  backends : left.backends = right.backends
  /-- Sequences of different lengths are joined alike. -/
  zipPolicy : left.config.zipPolicy = right.config.zipPolicy
  /-- Blanks are removed alike. -/
  trimText : left.config.trimText = right.config.trimText
  /-- What the first engine remembers is right. -/
  left : left.cache.Valid
  /-- What the second engine remembers is right. -/
  right : right.cache.Valid

/-! ## Parts of a call that read no rule -/

theorem Alike.evaluate (alike : Alike left right) (document : Document Tree) (rule : Rule) :
    left.evaluate document rule = right.evaluate document rule := by
  have chains : Chain.evaluate left.backends left.config document =
      Chain.evaluate right.backends right.config document := by
    funext chain
    rw [Chain.evaluate, Chain.evaluate, alike.backends, alike.zipPolicy, alike.trimText]
  rw [Engine.evaluate, Engine.evaluate, Rule.evaluate, Rule.evaluate, chains]

theorem Alike.valueOf (alike : Alike left right) (document : Document Tree) (rule : Rule) :
    left.valueOf document rule = right.valueOf document rule := by
  rw [Engine.valueOf, Engine.valueOf, alike.evaluate]

theorem Alike.load (alike : Alike left right) (source : String) (declared : Option DocumentKind) :
    left.load source declared = right.load source declared := by
  have markup : left.loadMarkup source = right.loadMarkup source := by
    rw [Engine.loadMarkup, Engine.loadMarkup, alike.backends]
  rw [Engine.load, Engine.load, markup]

theorem Alike.parseRule (alike : Alike left right) (document : Document Tree) (rule : Rule) :
    left.parseRule document rule = right.parseRule document rule := by
  rw [Engine.parseRule, Engine.parseRule, alike.valueOf]

/-! ## Reading rules -/

/-- What reading a rule does to an engine. -/
def remembering (engine : Engine Tree) (text : String) : Engine Tree :=
  { engine with cache := (engine.cache.getOrParse text).2 }

theorem Alike.remembering (alike : Alike left right) (text : String) :
    Alike (left.remembering text) (right.remembering text) where
  backends := alike.backends
  zipPolicy := alike.zipPolicy
  trimText := alike.trimText
  left := alike.left.getOrParse text
  right := alike.right.getOrParse text

/-- A valid cache gives the rule that the text spells. -/
theorem exists_lookup_eq {engine : Engine Tree} (valid : engine.cache.Valid) (text : String) :
    ∃ hit, engine.lookup text =
      ((Rule.parse text).map fun rule => (rule, hit), engine.remembering text) := by
  have spelled := valid.getOrParse_fst text
  unfold lookup remembering
  cases requested : engine.cache.getOrParse text with
  | mk result cache =>
      rw [requested] at spelled
      rw [← spelled]
      cases result with
      | error error => exact ⟨false, rfl⟩
      | ok found => exact ⟨found.2, rfl⟩

theorem compile_eq {engine : Engine Tree} (valid : engine.cache.Valid) (text : String) :
    engine.compile text = ((Rule.parse text).mapError .rule, engine.remembering text) := by
  obtain ⟨hit, found⟩ := exists_lookup_eq valid text
  rw [compile, found]
  cases Rule.parse text <;> rfl

/-! ## Calls -/

theorem Alike.tryDocument (alike : Alike left right) (document : Document Tree) (text : String) :
    (left.tryDocument document text).1 = (right.tryDocument document text).1 := by
  rw [Engine.tryDocument, Engine.tryDocument, compile_eq alike.left, compile_eq alike.right]
  cases Rule.parse text with
  | error error => rfl
  | ok rule => exact (alike.remembering text).valueOf document rule

theorem Alike.parse (alike : Alike left right) (source : String) (declared : Option DocumentKind)
    (text : String) :
    (left.parse source declared text).1 = (right.parse source declared text).1 := by
  have loaded := (alike.remembering text).load source declared
  rw [Engine.parse, Engine.parse, compile_eq alike.left, compile_eq alike.right]
  cases Rule.parse text with
  | error error => rfl
  | ok rule =>
      dsimp only [Except.mapError]
      rw [loaded]
      cases (right.remembering text).load source declared with
      | error error => rfl
      | ok document => exact (alike.remembering text).parseRule document rule

theorem Alike.parseDetailed (alike : Alike left right) (document : Document Tree)
    (text : String) :
    (left.parseDetailed document text).1.forgetHit =
      (right.parseDetailed document text).1.forgetHit := by
  obtain ⟨leftHit, leftFound⟩ := exists_lookup_eq alike.left text
  obtain ⟨rightHit, rightFound⟩ := exists_lookup_eq alike.right text
  rw [Engine.parseDetailed, Engine.parseDetailed, leftFound, rightFound]
  cases Rule.parse text with
  | error error => rfl
  | ok rule =>
      dsimp only [Except.map]
      rw [(alike.remembering text).evaluate document rule]
      cases (right.remembering text).evaluate document rule <;> rfl

/-- Engines that differ at most in what they remember give the same answers. -/
theorem Alike.answer (alike : Alike left right) (call : Call Tree) :
    (left.answer call).1.forgetHit = (right.answer call).1.forgetHit := by
  cases call with
  | compile text =>
      rw [Engine.answer, Engine.answer, compile_eq alike.left, compile_eq alike.right]
  | load source declared => rw [Engine.answer, Engine.answer, alike.load]
  | parse source declared text =>
      exact congrArg (Answer.forgetHit ∘ .extraction) (alike.parse source declared text)
  | parseDocument document text =>
      exact congrArg (fun result => Answer.forgetHit (.extraction (.ofResult result)))
        (alike.tryDocument document text)
  | parseRule document rule => rw [Engine.answer, Engine.answer, alike.parseRule]
  | tryDocument document text =>
      exact congrArg (Answer.forgetHit ∘ .value) (alike.tryDocument document text)
  | parseDetailed document text =>
      exact congrArg Answer.report (alike.parseDetailed document text)
  | clear => rfl

theorem compile_snd (engine : Engine Tree) (text : String) :
    (engine.compile text).2 = engine.remembering text := by
  unfold compile
  dsimp only [lookup]
  split <;> rfl

theorem tryDocument_snd (engine : Engine Tree) (document : Document Tree) (text : String) :
    (engine.tryDocument document text).2 = engine.remembering text := by
  unfold tryDocument
  dsimp only
  split <;> exact compile_snd engine text

theorem parse_snd (engine : Engine Tree) (source : String) (declared : Option DocumentKind)
    (text : String) : (engine.parse source declared text).2 = engine.remembering text := by
  unfold Engine.parse
  dsimp only
  split
  · exact compile_snd engine text
  · split <;> exact compile_snd engine text

theorem parseDetailed_snd (engine : Engine Tree) (document : Document Tree) (text : String) :
    (engine.parseDetailed document text).2 = engine.remembering text := by
  unfold parseDetailed
  dsimp only
  split
  · rfl
  · split <;> rfl

private theorem answer_snd_cases (engine : Engine Tree) (call : Call Tree) :
    (engine.answer call).2 = engine ∨ (engine.answer call).2 = engine.clear ∨
      ∃ text, (engine.answer call).2 = engine.remembering text := by
  cases call with
  | compile text => exact .inr (.inr ⟨text, compile_snd engine text⟩)
  | load source declared => exact .inl rfl
  | parse source declared text => exact .inr (.inr ⟨text, parse_snd engine source declared text⟩)
  | parseDocument document text =>
      exact .inr (.inr ⟨text, tryDocument_snd engine document text⟩)
  | parseRule document rule => exact .inl rfl
  | tryDocument document text =>
      exact .inr (.inr ⟨text, tryDocument_snd engine document text⟩)
  | parseDetailed document text =>
      exact .inr (.inr ⟨text, parseDetailed_snd engine document text⟩)
  | clear => exact .inr (.inl rfl)

private theorem Alike.answer_left (alike : Alike left right) (call : Call Tree) :
    Alike (left.answer call).2 right := by
  obtain ⟨backends, zipPolicy, trimText, valid, other⟩ := alike
  rcases answer_snd_cases left call with same | cleared | ⟨text, read⟩
  · rw [same]
    exact ⟨backends, zipPolicy, trimText, valid, other⟩
  · rw [cleared]
    exact ⟨backends, zipPolicy, trimText, .clear left.cache, other⟩
  · rw [read]
    exact ⟨backends, zipPolicy, trimText, valid.getOrParse text, other⟩

theorem Alike.after_left (alike : Alike left right) (history : List (Call Tree)) :
    Alike (left.after history) right := by
  induction history generalizing left with
  | nil => exact alike
  | cons call rest ih => exact ih (alike.answer_left call)

theorem alike_build (config : EngineConfig) (backends : Backends Tree) (capacity : Option Nat) :
    Alike (build config backends) (build { config with cacheCapacity := capacity } backends) where
  backends := rfl
  zipPolicy := rfl
  trimText := rfl
  left := RuleCache.valid_of_no_entries config.cacheCapacity 0 0
  right := RuleCache.valid_of_no_entries capacity 0 0

/-- After any history, an engine answers a call as a new engine does, whatever number of rules
either may remember; only a report tells whether its rule was remembered. -/
theorem answer_after_history (config : EngineConfig) (capacity : Option Nat)
    (backends : Backends Tree) (history : List (Call Tree)) (call : Call Tree) :
    (((build config backends).after history).answer call).1.forgetHit =
      ((build { config with cacheCapacity := capacity } backends).answer call).1.forgetHit :=
  ((alike_build config backends capacity).after_left history).answer call

end Engine

end Gleaner
