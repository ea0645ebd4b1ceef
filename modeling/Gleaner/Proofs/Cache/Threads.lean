import Gleaner.Proofs.Cache.Valid

/-!
# Threads that share a cache

A request for a rule is several steps: the look-up, the count, the reading of the rule, and one
exclusive section that looks again before it remembers the rule.  Emptying a cache is three.
Other threads may do anything between two steps.  This file gives the steps of one thread, what
each can do, and what each keeps.
-/

namespace Gleaner

namespace RuleCache

/-- The exclusive section after a rule was read: the rule that is remembered meanwhile, or else
the rule that was read, which is remembered if there is room. -/
def store (cache : RuleCache) (text : String) (rule : Rule) : Rule × RuleCache :=
  match cache.get? text with
  | some kept => (kept, cache)
  | none => (rule, cache.insert text rule)

/-- The cache with nothing remembered. -/
def forget (cache : RuleCache) : RuleCache :=
  { cache with entries := [] }

/-- The cache with no hits counted. -/
def resetHits (cache : RuleCache) : RuleCache :=
  { cache with hits := 0 }

/-- The cache with no misses counted. -/
def resetMisses (cache : RuleCache) : RuleCache :=
  { cache with misses := 0 }

end RuleCache

/-- What a thread asks of a cache. -/
inductive CacheRequest where
  /-- The rule of a text. -/
  | rule (text : String)
  /-- Nothing is to be remembered or counted any more. -/
  | clear
  deriving DecidableEq

/-- What a thread gets for a request. -/
inductive CacheReply where
  /-- The rule of a text, and whether it was remembered. -/
  | rule (text : String) (result : Except RuleError (Rule × Bool))
  /-- The cache was emptied. -/
  | cleared

/-- How far a thread is with a request. -/
inductive CacheStage where
  /-- It has started none. -/
  | idle
  /-- The rule was remembered; the hit is not counted yet. -/
  | found (text : String) (rule : Rule)
  /-- The rule was not remembered; the miss is not counted yet. -/
  | missed (text : String)
  /-- The miss is counted; the rule is not read yet. -/
  | counted (text : String)
  /-- The rule is read; it is not remembered yet. -/
  | parsed (text : String) (rule : Rule)
  /-- Nothing is remembered; hits and misses are still counted. -/
  | emptied
  /-- Nothing is remembered and no hits are counted; misses are. -/
  | unhit

/-- A thread that uses a cache. -/
structure CacheThread where
  /-- The requests that it has not started. -/
  requests : List CacheRequest
  /-- How far it is with the request that it has started. -/
  stage : CacheStage := .idle
  /-- The replies to the requests that it has finished, first ones first. -/
  replies : List CacheReply := []

namespace CacheReply

/-- The request that the reply is for. -/
def request : CacheReply → CacheRequest
  | rule text _ => .rule text
  | cleared => .clear

/-- The reply is what reading the text gives. -/
def Right : CacheReply → Prop
  | rule text result => result.map (·.1) = Rule.parse text
  | cleared => True

/-- The rule was remembered. -/
def remembered : CacheReply → Bool
  | rule _ (.ok (_, hit)) => hit
  | _ => false

end CacheReply

namespace CacheStage

/-- The request that is being served. -/
def request? : CacheStage → Option CacheRequest
  | idle => none
  | found text _ | missed text | counted text | parsed text _ => some (.rule text)
  | emptied | unhit => some .clear

/-- The rule that the thread holds is the one that the text spells. -/
def Right : CacheStage → Prop
  | found text rule | parsed text rule => Rule.parse text = .ok rule
  | _ => True

/-- A miss is counted and not replied to. -/
def isOpen : CacheStage → Bool
  | counted _ | parsed _ _ => true
  | _ => false

end CacheStage

namespace CacheThread

/-- The thread with the request that it serves replied to. -/
def reply (thread : CacheThread) (given : CacheReply) : CacheThread :=
  { thread with stage := .idle, replies := thread.replies ++ [given] }

/-- The cache and the thread after its next step; `none` if it has nothing left to do. -/
def advance (cache : RuleCache) (thread : CacheThread) : Option (RuleCache × CacheThread) :=
  match thread.stage with
  | .idle =>
      match thread.requests with
      | [] => none
      | .rule text :: requests =>
          match cache.get? text with
          | some rule => some (cache, { thread with requests, stage := .found text rule })
          | none => some (cache, { thread with requests, stage := .missed text })
      | .clear :: requests => some (cache.forget, { thread with requests, stage := .emptied })
  | .found text rule => some (cache.countHit, thread.reply (.rule text (.ok (rule, true))))
  | .missed text => some (cache.countMiss, { thread with stage := .counted text })
  | .counted text =>
      match Rule.parse text with
      | .ok rule => some (cache, { thread with stage := .parsed text rule })
      | .error error => some (cache, thread.reply (.rule text (.error error)))
  | .parsed text rule =>
      let (kept, cache) := cache.store text rule
      some (cache, thread.reply (.rule text (.ok (kept, false))))
  | .emptied => some (cache.resetHits, { thread with stage := .unhit })
  | .unhit => some (cache.resetMisses, thread.reply .cleared)

/-- What one step of a thread can do. -/
inductive Move : RuleCache → CacheThread → RuleCache → CacheThread → Prop
  | find {cache text rule requests replies} (found : cache.get? text = some rule) :
      Move cache ⟨.rule text :: requests, .idle, replies⟩
        cache ⟨requests, .found text rule, replies⟩
  | miss {cache text requests replies} (absent : cache.get? text = none) :
      Move cache ⟨.rule text :: requests, .idle, replies⟩
        cache ⟨requests, .missed text, replies⟩
  | countHit {cache text rule requests replies} :
      Move cache ⟨requests, .found text rule, replies⟩
        cache.countHit ⟨requests, .idle, replies ++ [.rule text (.ok (rule, true))]⟩
  | countMiss {cache text requests replies} :
      Move cache ⟨requests, .missed text, replies⟩
        cache.countMiss ⟨requests, .counted text, replies⟩
  | parse {cache text rule requests replies} (spells : Rule.parse text = .ok rule) :
      Move cache ⟨requests, .counted text, replies⟩
        cache ⟨requests, .parsed text rule, replies⟩
  | refuse {cache text error requests replies} (refused : Rule.parse text = .error error) :
      Move cache ⟨requests, .counted text, replies⟩
        cache ⟨requests, .idle, replies ++ [.rule text (.error error)]⟩
  | keep {cache text rule kept requests replies} (found : cache.get? text = some kept) :
      Move cache ⟨requests, .parsed text rule, replies⟩
        cache ⟨requests, .idle, replies ++ [.rule text (.ok (kept, false))]⟩
  | insert {cache text rule requests replies} (absent : cache.get? text = none) :
      Move cache ⟨requests, .parsed text rule, replies⟩
        (cache.insert text rule) ⟨requests, .idle, replies ++ [.rule text (.ok (rule, false))]⟩
  | empty {cache requests replies} :
      Move cache ⟨.clear :: requests, .idle, replies⟩
        cache.forget ⟨requests, .emptied, replies⟩
  | resetHits {cache requests replies} :
      Move cache ⟨requests, .emptied, replies⟩
        cache.resetHits ⟨requests, .unhit, replies⟩
  | resetMisses {cache requests replies} :
      Move cache ⟨requests, .unhit, replies⟩
        cache.resetMisses ⟨requests, .idle, replies ++ [.cleared]⟩

variable {cache after : RuleCache} {thread next : CacheThread}

theorem move_of_advance (steps : thread.advance cache = some (after, next)) :
    Move cache thread after next := by
  obtain ⟨requests, stage, replies⟩ := thread
  cases stage with
  | idle =>
      match requests with
      | [] => cases steps
      | .clear :: requests =>
          cases steps
          exact .empty
      | .rule text :: requests =>
          dsimp only [advance] at steps
          split at steps
          · next rule found =>
              cases steps
              exact .find found
          · next absent =>
              cases steps
              exact .miss absent
  | found text rule =>
      cases steps
      exact .countHit
  | missed text =>
      cases steps
      exact .countMiss
  | counted text =>
      dsimp only [advance] at steps
      split at steps
      · next rule spells =>
          cases steps
          exact .parse spells
      · next error refused =>
          cases steps
          exact .refuse refused
  | parsed text rule =>
      cases meanwhile : cache.get? text with
      | some kept =>
          simp only [advance, RuleCache.store, meanwhile, Option.some.injEq,
            Prod.mk.injEq] at steps
          obtain ⟨rfl, rfl⟩ := steps
          exact .keep meanwhile
      | none =>
          simp only [advance, RuleCache.store, meanwhile, Option.some.injEq,
            Prod.mk.injEq] at steps
          obtain ⟨rfl, rfl⟩ := steps
          exact .insert meanwhile
  | emptied =>
      cases steps
      exact .resetHits
  | unhit =>
      cases steps
      exact .resetMisses

/-- A thread that is not done can take a step. -/
theorem advance_eq_none_iff (cache : RuleCache) (thread : CacheThread) :
    thread.advance cache = none ↔ thread.requests = [] ∧ thread.stage = .idle := by
  obtain ⟨requests, stage, replies⟩ := thread
  cases stage with
  | idle =>
      match requests with
      | [] => simp [advance]
      | .clear :: requests => simp [advance]
      | .rule text :: requests => cases found : cache.get? text <;> simp [advance, found]
  | counted text => cases spelled : Rule.parse text <;> simp [advance, spelled]
  | _ => simp [advance]

/-! ## What a step keeps -/

/-- All requests of the thread: those it has finished, the one it serves, and those it has not
started. -/
def asked (thread : CacheThread) : List CacheRequest :=
  thread.replies.map CacheReply.request ++ thread.stage.request?.toList ++ thread.requests

theorem Move.asked (move : Move cache thread after next) : next.asked = thread.asked := by
  cases move <;> simp [CacheThread.asked, CacheStage.request?, CacheReply.request]

/-- The thread holds the rule that its text spells, and its replies are right. -/
structure Right (thread : CacheThread) : Prop where
  /-- What it holds. -/
  stage : thread.stage.Right
  /-- What it was given. -/
  replies : ∀ reply ∈ thread.replies, reply.Right

theorem Right.concat {requests : List CacheRequest} {stage : CacheStage}
    {replies : List CacheReply} (right : Right ⟨requests, stage, replies⟩) {given : CacheReply}
    (exact : given.Right) : Right ⟨requests, .idle, replies ++ [given]⟩ where
  stage := trivial
  replies := by
    intro reply member
    rcases List.mem_append.mp member with old | new
    · exact right.replies reply old
    · rw [List.mem_singleton.mp new]
      exact exact

theorem Move.capacity (move : Move cache thread after next) :
    after.capacity = cache.capacity := by
  cases move with
  | insert absent =>
      unfold RuleCache.insert
      split <;> rfl
  | _ => rfl

theorem Move.valid (move : Move cache thread after next) (valid : cache.Valid)
    (right : thread.Right) : after.Valid := by
  cases move with
  | countHit => exact valid.countHit
  | countMiss => exact valid.countMiss
  | insert absent => exact valid.insert absent right.stage
  | empty => exact RuleCache.valid_of_no_entries cache.capacity cache.hits cache.misses
  | resetHits => exact ⟨valid.parsed, valid.distinct, valid.bounded⟩
  | resetMisses => exact ⟨valid.parsed, valid.distinct, valid.bounded⟩
  | _ => exact valid

theorem Move.right (move : Move cache thread after next) (valid : cache.Valid)
    (right : thread.Right) : next.Right := by
  cases move with
  | find found => exact ⟨valid.parse_of_get? found, right.replies⟩
  | miss => exact ⟨trivial, right.replies⟩
  | countHit => exact right.concat right.stage.symm
  | countMiss => exact ⟨trivial, right.replies⟩
  | parse spells => exact ⟨spells, right.replies⟩
  | refuse refused => exact right.concat refused.symm
  | keep found => exact right.concat (valid.parse_of_get? found).symm
  | insert absent => exact right.concat right.stage.symm
  | empty => exact ⟨trivial, right.replies⟩
  | resetHits => exact ⟨trivial, right.replies⟩
  | resetMisses => exact right.concat trivial

/-! ## Counting -/

/-- How many requests of the thread found their rule. -/
def hits (thread : CacheThread) : Nat :=
  thread.replies.countP CacheReply.remembered

/-- How many requests of the thread had to read their rule and were replied to. -/
def misses (thread : CacheThread) : Nat :=
  thread.replies.countP (!·.remembered)

/-- How many requests of the thread are counted as misses and not replied to. -/
def pending (thread : CacheThread) : Nat :=
  if thread.stage.isOpen then 1 else 0

theorem hits_add_misses (thread : CacheThread) :
    thread.hits + thread.misses = thread.replies.length := by
  rw [List.length_eq_countP_add_countP CacheReply.remembered]
  simp [hits, misses]

/-- What one step of a thread that never clears adds to the counters of the cache, it adds to
those of the thread; it remembers at most as many rules as it gives up open requests. -/
theorem Move.counts (move : Move cache thread after next) (keeps : .clear ∉ thread.asked) :
    after.hits + thread.hits = cache.hits + next.hits ∧
      after.misses + (thread.misses + thread.pending) =
        cache.misses + (next.misses + next.pending) ∧
      after.size + next.pending + cache.misses ≤ cache.size + thread.pending + after.misses ∧
        cache.entries <+: after.entries := by
  -- A thread that never clears takes none of the first three steps.
  cases move with
  | empty => exact absurd (by simp [CacheThread.asked, CacheStage.request?]) keeps
  | resetHits => exact absurd (by simp [CacheThread.asked, CacheStage.request?]) keeps
  | resetMisses => exact absurd (by simp [CacheThread.asked, CacheStage.request?]) keeps
  | insert absent =>
      unfold RuleCache.insert
      split <;>
        simp [hits, misses, pending, CacheStage.isOpen, CacheReply.remembered, RuleCache.size]
  | _ =>
      simp [hits, misses, pending, CacheStage.isOpen, CacheReply.remembered, RuleCache.countHit,
        RuleCache.countMiss, RuleCache.size] <;> omega

/-! ## A thread by itself -/

/-- The cache and the thread after some steps with no other thread between them. -/
def alone : Nat → RuleCache → CacheThread → Option (RuleCache × CacheThread)
  | 0, cache, thread => some (cache, thread)
  | steps + 1, cache, thread => do
      let (cache, thread) ← thread.advance cache
      alone steps cache thread

theorem exists_alone_rule (cache : RuleCache) (text : String) (requests : List CacheRequest)
    (replies : List CacheReply) :
    ∃ steps, alone steps cache ⟨.rule text :: requests, .idle, replies⟩ =
      some ((cache.getOrParse text).2,
        ⟨requests, .idle, replies ++ [.rule text (cache.getOrParse text).1]⟩) := by
  cases found : cache.get? text with
  | some rule =>
      exact ⟨2, by simp [alone, advance, found, RuleCache.getOrParse, reply]⟩
  | none =>
      have still : cache.countMiss.get? text = none := found
      cases spelled : Rule.parse text with
      | error error =>
          exact ⟨3, by simp [alone, advance, found, spelled, RuleCache.getOrParse, reply]⟩
      | ok rule =>
          exact ⟨4, by
            simp [alone, advance, found, still, spelled, RuleCache.getOrParse, RuleCache.store,
              reply]⟩

theorem alone_clear (cache : RuleCache) (requests : List CacheRequest)
    (replies : List CacheReply) :
    alone 3 cache ⟨.clear :: requests, .idle, replies⟩ =
      some (cache.clear, ⟨requests, .idle, replies ++ [.cleared]⟩) := rfl

end CacheThread

end Gleaner
