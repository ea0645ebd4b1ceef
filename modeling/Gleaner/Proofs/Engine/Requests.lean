import Gleaner.Markup
import Gleaner.Proofs.Cache.Requests
import Gleaner.Proofs.Engine.History

/-!
# What an engine remembers and counts

Each call that reads the text of a rule is one request of the cache, whatever comes of loading and
evaluation.  Loading a source, running a rule that was built and showing the engine are none.  So
the cache of an engine is the one that these requests lead to.
-/

namespace Gleaner

variable {Tree : Type}

/-- What can be done with an engine. -/
inductive Use (Tree : Type) where
  /-- A call is made. -/
  | call (call : Call Tree)
  /-- The engine is shown. -/
  | display

/-- What is done to the cache of an engine that is used. -/
def Use.operation? : Use Tree → Option RuleCache.Operation
  | call (.compile text) => some (.request text)
  | call (.parse _ _ text) => some (.request text)
  | call (.parseDocument _ text) => some (.request text)
  | call (.tryDocument _ text) => some (.request text)
  | call (.parseDetailed _ text) => some (.request text)
  | call .clear => some .clear
  | call (.load _ _) => none
  | call (.parseRule _ _) => none
  | display => none

namespace Engine

/-- What an engine gives when it is used, and the engine after that. -/
def use (engine : Engine Tree) : Use Tree → (Answer Tree ⊕ String) × Engine Tree
  | .call call =>
      let (answer, engine) := engine.answer call
      (.inl answer, engine)
  | .display => (.inr engine.display, engine)

/-- The engine after it was used some times. -/
def afterUses (engine : Engine Tree) (uses : List (Use Tree)) : Engine Tree :=
  uses.foldl (fun engine use => (engine.use use).2) engine

private theorem cache_use (engine : Engine Tree) (use : Use Tree) :
    (engine.use use).2.cache = engine.cache.after use.operation?.toList := by
  cases use with
  | display => rfl
  | call call =>
      cases call with
      | compile text => exact congrArg cache (compile_snd engine text)
      | load source declared => rfl
      | parse source declared text => exact congrArg cache (parse_snd engine source declared text)
      | parseDocument document text => exact congrArg cache (tryDocument_snd engine document text)
      | parseRule document rule => rfl
      | tryDocument document text => exact congrArg cache (tryDocument_snd engine document text)
      | parseDetailed document text =>
          exact congrArg cache (parseDetailed_snd engine document text)
      | clear => rfl

private theorem cache_afterUses (engine : Engine Tree) (uses : List (Use Tree)) :
    (engine.afterUses uses).cache = engine.cache.after (uses.filterMap Use.operation?) := by
  induction uses generalizing engine with
  | nil => rfl
  | cons use rest ih =>
      have behind := ih (engine.use use).2
      rw [cache_use] at behind
      rw [afterUses, List.foldl_cons]
      refine behind.trans ?_
      cases operation : use.operation? with
      | none => rw [List.filterMap_cons_none operation]; rfl
      | some operation' => rw [List.filterMap_cons_some operation]; rfl

private theorem counted_use (engine : Engine Tree) (use : Use Tree) :
    (engine.use use).2.cache.hits + (engine.use use).2.cache.misses =
      match use.operation? with
      | some (.request _) => engine.cache.hits + engine.cache.misses + 1
      | some (.get _) => engine.cache.hits + engine.cache.misses
      | some .clear => 0
      | none => engine.cache.hits + engine.cache.misses := by
  rw [cache_use]
  cases use.operation? with
  | none => rfl
  | some operation =>
      cases operation with
      | request text => exact engine.cache.counted_getOrParse text
      | get text => rfl
      | clear => rfl

/-- After any run on a new cache it remembers the first texts that spell rules, each once and as
many as there is room for; a request is a hit exactly when its text is remembered, and everything
else is a miss.  The cache of an engine is the one that the requests made through it lead to, each
call that reads the text of a rule being one request and all else none. -/
theorem requests_counted (capacity : Option Nat) (operations : List RuleCache.Operation)
    (config : EngineConfig) (backends : Backends Tree) (uses : List (Use Tree)) (use : Use Tree) :
    (let cache := RuleCache.after { capacity } operations
     let texts := RuleCache.requested operations
     cache.entries.map (·.1) = RuleCache.kept capacity texts ∧
        (∀ entry ∈ cache.entries, Rule.parse entry.1 = .ok entry.2) ∧
        cache.hits = RuleCache.hitCount capacity texts ∧
        cache.hits + cache.misses = texts.length ∧
        (∀ text, (∃ rule, (cache.getOrParse text).1 = .ok (rule, true)) ↔
          text ∈ cache.entries.map (·.1)) ∧
        (∀ text error, Rule.parse text = .error error →
          cache.getOrParse text = (.error error, { cache with misses := cache.misses + 1 })) ∧
        (∀ text, (cache.perform (.get text)).2 = cache) ∧
        cache.clear = { capacity }) ∧
    (let engine := (build config backends).afterUses uses
     engine.cache =
          RuleCache.after { capacity := config.cacheCapacity } (uses.filterMap Use.operation?) ∧
        (engine.use use).2.cache.hits + (engine.use use).2.cache.misses =
          match use.operation? with
          | some (.request _) => engine.cache.hits + engine.cache.misses + 1
          | some (.get _) => engine.cache.hits + engine.cache.misses
          | some .clear => 0
          | none => engine.cache.hits + engine.cache.misses) := by
  constructor
  · intro cache texts
    have same : cache = RuleCache.ofRequests capacity texts :=
      RuleCache.after_eq_ofRequests capacity operations
    have keys := RuleCache.keys_ofRequests capacity texts
    rw [same]
    refine ⟨keys, RuleCache.parsed_ofRequests, rfl, ?_, fun text => ?_,
      fun text error refused => ?_, fun text => rfl, rfl⟩
    · exact Nat.add_sub_cancel' RuleCache.hitCount_le_length
    · rw [keys]
      exact RuleCache.hit_ofRequests_iff capacity texts text
    · exact RuleCache.getOrParse_of_refused refused
  · intro engine
    exact ⟨cache_afterUses (build config backends) uses, counted_use engine use⟩

/-- A rule refused for want of room keeps missing while the one remembered before it keeps
hitting; a malformed rule is a miss; a call whose rule does not fit its document is counted. -/
theorem requests_counted_at_capacity_one :
    let cache := RuleCache.after { capacity := some 1 }
      [.request "@nope:x", .request "@text:a", .request "@text:b", .get "@text:b",
        .request "@text:a", .request "@text:b"]
    let engine := (build {} standardBackends).afterUses
      [.call (.compile "@text:a"), .display, .call (.load "x" none)]
    let misfit : Use _ := .call (.parseDocument (.text "x") "@css:p")
    cache.entries.map (·.1) = ["@text:a"] ∧ cache.hits = 1 ∧ cache.hits + cache.misses = 5 ∧
      (∃ rule, (cache.getOrParse "@text:a").1 = .ok (rule, true)) ∧
      Rule.parse "@nope:x" = .error (.unknownTag "@nope:x") ∧
      cache.getOrParse "@nope:x" =
        (.error (.unknownTag "@nope:x"), { cache with misses := cache.misses + 1 }) ∧
      (engine.use misfit).2.cache.hits + (engine.use misfit).2.cache.misses =
        engine.cache.hits + engine.cache.misses + 1 := by
  intro cache engine misfit
  obtain ⟨⟨keys, -, hits, counted, flags, refusals, -⟩, -, uses⟩ :=
    requests_counted (some 1)
      [.request "@nope:x", .request "@text:a", .request "@text:b", .get "@text:b",
        .request "@text:a", .request "@text:b"] {} standardBackends
      [.call (.compile "@text:a"), .display, .call (.load "x" none)] misfit
  have held : RuleCache.kept (some 1)
      ["@nope:x", "@text:a", "@text:b", "@text:a", "@text:b"] = ["@text:a"] := by decide
  have found : RuleCache.hitCount (some 1)
      ["@nope:x", "@text:a", "@text:b", "@text:a", "@text:b"] = 1 := by decide
  have refused : Rule.parse "@nope:x" = .error (.unknownTag "@nope:x") := by decide
  have names : cache.entries.map (·.1) = ["@text:a"] := keys.trans held
  have member : "@text:a" ∈ cache.entries.map (·.1) := by
    rw [names]
    exact List.mem_singleton_self _
  exact ⟨names, hits.trans found, counted, (flags _).mpr member, refused, refusals _ _ refused,
    uses⟩

end Engine

end Gleaner
