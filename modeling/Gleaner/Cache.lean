import Gleaner.Rule.Parser

/-!
# Remembered rules

A cache remembers rules by their text, in the order in which they were first read, and counts
how often a rule was remembered and how often it was not.
-/

namespace Gleaner

/-- Rules remembered by their text. -/
structure RuleCache where
  /-- Greatest number of rules that are remembered; `none` is no limit. -/
  capacity : Option Nat
  /-- The remembered rules, oldest first. -/
  entries : List (String × Rule) := []
  /-- How many requests found their rule.  The count has no bound, where one kept in 64 bits starts
  again from zero at the `2^64`th request. -/
  hits : Nat := 0
  /-- How many requests had to read their rule, without a bound as well. -/
  misses : Nat := 0
  deriving DecidableEq

namespace RuleCache

/-- The remembered rule of a text. -/
def get? (cache : RuleCache) (text : String) : Option Rule :=
  (cache.entries.find? (·.1 == text)).map (·.2)

/-- Number of remembered rules. -/
def size (cache : RuleCache) : Nat :=
  cache.entries.length

/-- No rule is remembered. -/
def isEmpty (cache : RuleCache) : Bool :=
  cache.size == 0

/-- There is room for another rule. -/
def hasRoom (cache : RuleCache) : Bool :=
  cache.capacity.all (cache.size < ·)

/-- The cache with a rule remembered, as long as there is room. -/
def insert (cache : RuleCache) (text : String) (rule : Rule) : RuleCache :=
  if cache.hasRoom then { cache with entries := cache.entries ++ [(text, rule)] } else cache

/-- The cache with one more request that found its rule. -/
def countHit (cache : RuleCache) : RuleCache :=
  { cache with hits := cache.hits + 1 }

/-- The cache with one more request that had to read its rule. -/
def countMiss (cache : RuleCache) : RuleCache :=
  { cache with misses := cache.misses + 1 }

/-- The rule of a text and whether it was remembered, and the cache after the request.  A rule
that is read is remembered; a malformed one is not. -/
def getOrParse (cache : RuleCache) (text : String) :
    Except RuleError (Rule × Bool) × RuleCache :=
  match cache.get? text with
  | some rule => (.ok (rule, true), cache.countHit)
  | none =>
      match Rule.parse text with
      | .ok rule => (.ok (rule, false), cache.countMiss.insert text rule)
      | .error error => (.error error, cache.countMiss)

/-- The cache with nothing remembered and nothing counted. -/
def clear (cache : RuleCache) : RuleCache where
  capacity := cache.capacity

end RuleCache

end Gleaner
