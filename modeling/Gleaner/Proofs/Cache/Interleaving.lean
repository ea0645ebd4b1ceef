import Gleaner.Proofs.Cache.Threads
import Mathlib.Algebra.BigOperators.Group.List.Basic
import Mathlib.Algebra.GroupWithZero.Nat

/-!
# Interleaved requests

Threads that share one cache take their steps in any order.  Every order keeps the cache valid
and every reply right; without requests to clear, nothing that is remembered is lost, and once
all requests are replied to the counters say how many found their rule.
-/

namespace Gleaner

/-- A cache, and the threads that share it. -/
structure SharedCache where
  /-- The cache. -/
  cache : RuleCache
  /-- The threads. -/
  threads : List CacheThread

namespace SharedCache

/-- A new cache, and threads that have not started yet. -/
def start (capacity : Option Nat) (requests : List (List CacheRequest)) : SharedCache where
  cache := { capacity }
  threads := requests.map fun requests => { requests }

/-- The state after the next step of the thread with the index, if it has one. -/
def step (index : Nat) (state : SharedCache) : Option SharedCache := do
  let thread ← state.threads[index]?
  let (cache, next) ← thread.advance state.cache
  return { cache, threads := state.threads.set index next }

/-- The state after steps of the threads with the indices, in this order. -/
def run : List Nat → SharedCache → Option SharedCache
  | [], state => some state
  | index :: schedule, state => state.step index >>= run schedule

/-- All requests are replied to. -/
def Finished (state : SharedCache) : Prop :=
  ∀ thread ∈ state.threads, thread.requests = [] ∧ thread.stage = .idle

variable {state after : SharedCache}

private theorem exists_append_cons_of_getElem? {α : Type} {items : List α} {index : Nat} {item : α}
    (found : items[index]? = some item) :
    ∃ front back, items = front ++ item :: back ∧
      ∀ other, items.set index other = front ++ other :: back := by
  obtain ⟨inside, rfl⟩ := List.getElem?_eq_some_iff.mp found
  refine ⟨items.take index, items.drop (index + 1), ?_, fun other => ?_⟩
  · rw [← List.drop_eq_getElem_cons inside, List.take_append_drop]
  · rw [List.set_eq_take_append_cons_drop, if_pos inside]

private theorem move_of_step {index : Nat} (steps : state.step index = some after) :
    ∃ front thread back cache next, CacheThread.Move state.cache thread cache next ∧
      state = { cache := state.cache, threads := front ++ thread :: back } ∧
        after = { cache, threads := front ++ next :: back } := by
  obtain ⟨thread, found, steps⟩ := Option.bind_eq_some_iff.mp steps
  obtain ⟨⟨cache, next⟩, advances, replaced⟩ := Option.bind_eq_some_iff.mp steps
  obtain ⟨front, back, split, set_eq⟩ := exists_append_cons_of_getElem? found
  refine ⟨front, thread, back, cache, next, CacheThread.move_of_advance advances, ?_, ?_⟩
  · rw [← split]
  · rw [← set_eq next]
    exact (Option.some.inj replaced).symm

/-- As long as a request is not replied to, some thread can take a step. -/
theorem finished_iff (state : SharedCache) :
    state.Finished ↔ ∀ index, state.step index = none := by
  simp only [step, Finished, ← CacheThread.advance_eq_none_iff state.cache]
  constructor
  · intro finished index
    cases found : state.threads[index]? with
    | none => rfl
    | some thread => simp [finished thread (List.mem_of_getElem? found)]
  · intro stuck thread member
    obtain ⟨index, found⟩ := List.mem_iff_getElem?.mp member
    have still := stuck index
    cases advances : thread.advance state.cache with
    | none => rfl
    | some moved => simp [found, advances] at still

/-- What steps keep, runs keep. -/
theorem run_induction {motive : SharedCache → Prop}
    (step_keeps : ∀ {state after index}, motive state → state.step index = some after →
      motive after)
    {schedule : List Nat} (initial : motive state) (runs : run schedule state = some after) :
    motive after := by
  induction schedule generalizing state with
  | nil =>
      cases runs
      exact initial
  | cons index rest ih =>
      obtain ⟨next, steps, runs⟩ := Option.bind_eq_some_iff.mp runs
      exact ih (step_keeps initial steps) runs

/-! ## Validity -/

/-- The cache is valid and the threads are right. -/
structure Sound (state : SharedCache) : Prop where
  /-- The cache. -/
  cache : state.cache.Valid
  /-- The threads. -/
  threads : ∀ thread ∈ state.threads, thread.Right

private theorem sound_start (capacity : Option Nat) (requests : List (List CacheRequest)) :
    (start capacity requests).Sound where
  cache := RuleCache.valid_of_no_entries capacity 0 0
  threads := by
    simp only [start, List.forall_mem_map]
    exact fun _ _ => ⟨trivial, by simp⟩

theorem Sound.step {index : Nat} (sound : state.Sound) (steps : state.step index = some after) :
    after.Sound := by
  obtain ⟨front, thread, back, cache, next, move, split, rfl⟩ := move_of_step steps
  rw [split] at sound
  obtain ⟨valid, right⟩ := sound
  simp only [List.forall_mem_append, List.forall_mem_cons] at right
  refine ⟨move.valid valid right.2.1, ?_⟩
  simp only [List.forall_mem_append, List.forall_mem_cons]
  exact ⟨right.1, move.right valid right.2.1, right.2.2⟩

private theorem capacity_step {index : Nat} (steps : state.step index = some after) :
    after.cache.capacity = state.cache.capacity := by
  obtain ⟨front, thread, back, cache, next, move, -, rfl⟩ := move_of_step steps
  exact move.capacity

private theorem asked_step {index : Nat} (steps : state.step index = some after) :
    after.threads.map CacheThread.asked = state.threads.map CacheThread.asked := by
  obtain ⟨front, thread, back, cache, next, move, split, rfl⟩ := move_of_step steps
  rw [split]
  simp [move.asked]

/-! ## Counting -/

/-- The counters of the cache are those of the threads, and each rule that is remembered was
counted as a miss. -/
structure Counted (state : SharedCache) : Prop where
  /-- No thread clears the cache. -/
  keeps : ∀ thread ∈ state.threads, .clear ∉ thread.asked
  /-- The hits. -/
  hits : state.cache.hits = (state.threads.map CacheThread.hits).sum
  /-- The misses. -/
  misses : state.cache.misses =
    (state.threads.map fun thread => thread.misses + thread.pending).sum
  /-- The remembered rules, and those that may be remembered next. -/
  size : state.cache.size + (state.threads.map CacheThread.pending).sum ≤ state.cache.misses

theorem Counted.step {index : Nat} (counted : state.Counted)
    (steps : state.step index = some after) :
    after.Counted ∧ state.cache.entries <+: after.cache.entries := by
  obtain ⟨front, thread, back, cache, next, move, split, rfl⟩ := move_of_step steps
  rw [split] at counted
  obtain ⟨keeps, hits, misses, size⟩ := counted
  have own := keeps thread (by simp)
  obtain ⟨hit, miss, fits, grows⟩ := move.counts own
  simp only [List.map_append, List.map_cons, List.sum_append, List.sum_cons] at hits misses size
  refine ⟨⟨?_, ?_, ?_, ?_⟩, grows⟩
  · simp only [List.forall_mem_append, List.forall_mem_cons, move.asked] at keeps ⊢
    exact keeps
  · simp only [List.map_append, List.map_cons, List.sum_append, List.sum_cons]
    omega
  · simp only [List.map_append, List.map_cons, List.sum_append, List.sum_cons]
    omega
  · simp only [List.map_append, List.map_cons, List.sum_append, List.sum_cons]
    omega

theorem Counted.run {schedule : List Nat} (counted : state.Counted)
    (runs : run schedule state = some after) :
    after.Counted ∧ state.cache.entries <+: after.cache.entries := by
  refine run_induction (motive := fun after =>
    after.Counted ∧ state.cache.entries <+: after.cache.entries) ?_
    ⟨counted, List.prefix_rfl⟩ runs
  intro between after index kept steps
  obtain ⟨still, grows⟩ := kept.1.step steps
  exact ⟨still, kept.2.trans grows⟩

private theorem counted_start (capacity : Option Nat) {requests : List (List CacheRequest)}
    (keeps : ∀ asked ∈ requests, .clear ∉ asked) : (start capacity requests).Counted where
  keeps := by
    simpa [start, CacheThread.asked, CacheStage.request?] using keeps
  hits := by
    simp [start, CacheThread.hits, Function.comp_def]
  misses := by
    simp [start, CacheThread.misses, CacheThread.pending, CacheStage.isOpen, Function.comp_def]
  size := by
    simp [start, RuleCache.size, CacheThread.pending, CacheStage.isOpen, Function.comp_def]

theorem Finished.pending (finished : state.Finished) {thread : CacheThread}
    (member : thread ∈ state.threads) : thread.pending = 0 := by
  simp [CacheThread.pending, (finished thread member).2, CacheStage.isOpen]

private theorem Finished.length_replies (finished : state.Finished) {thread : CacheThread}
    (member : thread ∈ state.threads) : thread.asked.length = thread.replies.length := by
  obtain ⟨none_left, idle⟩ := finished thread member
  simp [CacheThread.asked, none_left, idle, CacheStage.request?]

theorem Counted.hits_add_misses (counted : state.Counted) (finished : state.Finished) :
    state.cache.hits + state.cache.misses =
      (state.threads.map fun thread => thread.asked.length).sum := by
  rw [counted.hits, counted.misses, ← List.sum_map_add]
  refine congrArg List.sum (List.map_congr_left fun thread member => ?_)
  rw [finished.pending member, finished.length_replies member, Nat.add_zero,
    CacheThread.hits_add_misses]

/-! ## Every order of steps -/

/-- In every order of the steps of all threads, the cache stays valid, and each thread has right
replies to the requests that it has finished.  If no thread clears the cache, there are at most as
many rules as misses, none is lost, and once all requests are replied to each of them is counted,
as a hit exactly if its rule was remembered. -/
theorem every_interleaving_safe {capacity : Option Nat} {requests : List (List CacheRequest)}
    {schedule : List Nat} (runs : run schedule (start capacity requests) = some state) :
    (state.cache.Valid ∧ state.cache.capacity = capacity) ∧
      (state.threads.map CacheThread.asked = requests ∧
        ∀ thread ∈ state.threads, ∀ reply ∈ thread.replies, reply.Right) ∧
      ((∀ asked ∈ requests, .clear ∉ asked) →
        state.cache.size ≤ state.cache.misses ∧
        (∀ later after, run later state = some after →
          state.cache.entries <+: after.cache.entries) ∧
        (state.Finished →
          state.cache.hits + state.cache.misses = (requests.map List.length).sum ∧
          state.cache.hits = (state.threads.map CacheThread.hits).sum)) := by
  have sound : state.Sound := run_induction Sound.step (sound_start capacity requests) runs
  have asked : state.threads.map CacheThread.asked = requests := by
    refine run_induction (motive := fun state => state.threads.map CacheThread.asked = requests)
      (fun asked steps => (asked_step steps).trans asked) ?_ runs
    simp [start, CacheThread.asked, CacheStage.request?, Function.comp_def]
  have limit : state.cache.capacity = capacity :=
    run_induction (motive := fun state => state.cache.capacity = capacity)
      (fun same steps => (capacity_step steps).trans same) rfl runs
  have right : ∀ thread ∈ state.threads, ∀ reply ∈ thread.replies, reply.Right :=
    fun thread member => (sound.threads thread member).replies
  refine ⟨⟨sound.cache, limit⟩, ⟨asked, right⟩, ?_⟩
  intro keeps
  have counted : state.Counted := ((counted_start capacity keeps).run runs).1
  refine ⟨?_, ?_, ?_⟩
  · exact Nat.le_trans (Nat.le_add_right _ _) counted.size
  · intro later after continued
    exact (counted.run continued).2
  · intro finished
    refine ⟨?_, counted.hits⟩
    rw [counted.hits_add_misses finished, ← asked, List.map_map]
    rfl

/-- Two threads that race for one rule both read it, and it is remembered once. -/
theorem race_remembers_once :
    ∃ state, run [0, 1, 0, 1, 0, 1, 0, 1, 1, 1]
        (start (some 1) [[.rule "@text:a"], [.rule "@text:a", .rule "@text:a"]]) = some state ∧
      state.Finished ∧ state.cache.entries.length = 1 ∧
        state.cache.hits + state.cache.misses = 3 := by
  let rule : Rule := { groups := [{ terms := [{ selector := .text "a" }] }] }
  let after : SharedCache :=
    { cache := { capacity := some 1, entries := [("@text:a", rule)], hits := 1, misses := 2 }
      threads := [
        { requests := [], replies := [.rule "@text:a" (.ok (rule, false))] },
        { requests := []
          replies := [.rule "@text:a" (.ok (rule, false)), .rule "@text:a" (.ok (rule, true))] }] }
  have runs : run [0, 1, 0, 1, 0, 1, 0, 1, 1, 1]
      (start (some 1) [[.rule "@text:a"], [.rule "@text:a", .rule "@text:a"]]) = some after := rfl
  have finished : after.Finished := by simp [after, Finished]
  refine ⟨after, runs, finished, rfl, ?_⟩
  exact ((every_interleaving_safe runs).2.2 (by decide)).2.2 finished |>.1

end SharedCache

end Gleaner
