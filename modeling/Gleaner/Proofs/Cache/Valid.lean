import Gleaner.Cache
import Mathlib.Data.List.Nodup

/-!
# Valid caches

A valid cache remembers what its texts spell, each text once, and no more texts than it has room
for.  Every operation of a cache keeps it valid, and a request to a valid cache gives what reading
the text gives.
-/

namespace Gleaner.RuleCache

/-- What is remembered of a text is what it spells, and the cache stays within its capacity. -/
structure Valid (cache : RuleCache) : Prop where
  /-- Each text spells the rule that is remembered of it. -/
  parsed : ∀ entry ∈ cache.entries, Rule.parse entry.1 = .ok entry.2
  /-- No text is remembered twice. -/
  distinct : (cache.entries.map (·.1)).Nodup
  /-- There are no more rules than the cache has room for. -/
  bounded : ∀ limit ∈ cache.capacity, cache.size ≤ limit

variable {cache : RuleCache} {text : String} {rule : Rule}

private theorem mem_of_get? (found : cache.get? text = some rule) :
    (text, rule) ∈ cache.entries := by
  obtain ⟨⟨key, value⟩, first, rfl⟩ := Option.map_eq_some_iff.mp found
  obtain rfl : key = text := by simpa using List.find?_some first
  exact List.mem_of_find?_eq_some first

theorem get?_eq_none_iff (cache : RuleCache) (text : String) :
    cache.get? text = none ↔ text ∉ cache.entries.map (·.1) := by
  simp only [get?, Option.map_eq_none_iff, List.find?_eq_none, beq_iff_eq, List.mem_map,
    not_exists, not_and]

/-! ## Operations -/

theorem valid_of_no_entries (capacity : Option Nat) (hits misses : Nat) :
    Valid { capacity, hits, misses } where
  parsed := by simp
  distinct := by simp
  bounded := by simp [size]

theorem Valid.clear (cache : RuleCache) : cache.clear.Valid :=
  valid_of_no_entries cache.capacity 0 0

theorem Valid.countHit (valid : cache.Valid) : cache.countHit.Valid where
  parsed := valid.parsed
  distinct := valid.distinct
  bounded := valid.bounded

theorem Valid.countMiss (valid : cache.Valid) : cache.countMiss.Valid where
  parsed := valid.parsed
  distinct := valid.distinct
  bounded := valid.bounded

theorem Valid.insert (valid : cache.Valid) (absent : cache.get? text = none)
    (spells : Rule.parse text = .ok rule) : (cache.insert text rule).Valid := by
  unfold RuleCache.insert
  split
  · next room =>
      constructor
      · intro entry member
        rcases List.mem_append.mp member with old | new
        · exact valid.parsed entry old
        · rw [List.mem_singleton.mp new]
          exact spells
      · rw [List.map_append, List.nodup_append_comm]
        exact List.nodup_cons.mpr ⟨(get?_eq_none_iff cache text).mp absent, valid.distinct⟩
      · intro limit some_limit
        rw [hasRoom, Option.mem_def.mp some_limit] at room
        have below : cache.entries.length < limit := of_decide_eq_true room
        simp only [size, List.length_append, List.length_singleton]
        omega
  · exact valid

/-! ## Requests -/

theorem Valid.parse_of_get? (valid : cache.Valid) (found : cache.get? text = some rule) :
    Rule.parse text = .ok rule :=
  valid.parsed (text, rule) (mem_of_get? found)

/-- A request gives what the text spells, whether or not its rule was remembered. -/
theorem Valid.getOrParse_fst (valid : cache.Valid) (text : String) :
    (cache.getOrParse text).1.map (·.1) = Rule.parse text := by
  unfold RuleCache.getOrParse
  split
  · next rule found => exact (valid.parse_of_get? found).symm
  · split
    · next rule spells => exact spells.symm
    · next error refused => exact refused.symm

theorem Valid.getOrParse (valid : cache.Valid) (text : String) :
    (cache.getOrParse text).2.Valid := by
  unfold RuleCache.getOrParse
  split
  · exact valid.countHit
  · next absent =>
      split
      · next rule spells => exact valid.countMiss.insert absent spells
      · exact valid.countMiss

end Gleaner.RuleCache
