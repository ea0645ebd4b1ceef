import Gleaner.Proofs.Cache.Valid

/-!
# Runs of a cache

The texts requested since a cache was last emptied tell all about it: it remembers the first of
them that spell rules, each once and as many as it has room for, and it has counted a hit for each
request whose text it remembered at that time and a miss for every other one.
-/

namespace Gleaner.RuleCache

/-- What can be done with a cache. -/
inductive Operation where
  /-- The rule of a text is requested. -/
  | request (text : String)
  /-- The remembered rule of a text is looked up. -/
  | get (text : String)
  /-- The cache is emptied. -/
  | clear

/-- What an operation gives. -/
inductive Reply where
  /-- The rule of a text and whether it was remembered, or why there is none. -/
  | rule (result : Except RuleError (Rule × Bool))
  /-- The remembered rule of a text. -/
  | remembered (rule : Option Rule)
  /-- The operation has no result. -/
  | done

/-- What an operation gives, and the cache after it. -/
def perform (cache : RuleCache) : Operation → Reply × RuleCache
  | .request text =>
      let (result, cache) := cache.getOrParse text
      (.rule result, cache)
  | .get text => (.remembered (cache.get? text), cache)
  | .clear => (.done, cache.clear)

/-- The cache after some operations. -/
def after (cache : RuleCache) (operations : List Operation) : RuleCache :=
  operations.foldl (fun cache operation => (cache.perform operation).2) cache

/-- The texts requested since the cache was last emptied, after one more operation. -/
def requestedAfter (texts : List String) : Operation → List String
  | .request text => texts ++ [text]
  | .get _ => texts
  | .clear => []

/-- The texts requested since the cache was last emptied, oldest first. -/
def requested (operations : List Operation) : List String :=
  operations.foldl requestedAfter []

/-- The text spells a rule. -/
def isRule (text : String) : Bool :=
  (Rule.parse text).isOk

/-- The requested texts that spell rules, each at its first request. -/
def spelled (texts : List String) : List String :=
  (texts.filter isRule).eraseDups

/-- As many of the items as there is room for, first ones first. -/
def upTo (capacity : Option Nat) (items : List String) : List String :=
  match capacity with
  | none => items
  | some limit => items.take limit

/-- The texts that a cache remembers once these texts have been requested. -/
def kept (capacity : Option Nat) (texts : List String) : List String :=
  upTo capacity (spelled texts)

/-- The number of requests for these texts that come when their text is remembered. -/
def hitCount (capacity : Option Nat) (texts : List String) : Nat :=
  (List.range texts.length).countP fun place =>
    texts[place]?.any (kept capacity (texts.take place)).contains

/-- The cache that requests for these texts lead to. -/
def ofRequests (capacity : Option Nat) (texts : List String) : RuleCache where
  capacity := capacity
  entries := (kept capacity texts).filterMap fun text =>
    (Rule.parse text).toOption.map fun rule => (text, rule)
  hits := hitCount capacity texts
  misses := texts.length - hitCount capacity texts

section

variable {capacity : Option Nat} {texts : List String} {text : String}

/-! ## One more text -/

theorem mem_spelled_iff : text ∈ spelled texts ↔ text ∈ texts ∧ isRule text = true := by
  rw [spelled, List.mem_eraseDups, List.mem_filter]

private theorem spelled_concat_of_new (spells : isRule text = true) (new : text ∉ spelled texts) :
    spelled (texts ++ [text]) = spelled texts ++ [text] := by
  have absent : text ∉ texts.filter isRule := by simpa [spelled] using new
  rw [spelled, List.filter_append, List.filter_cons_of_pos spells, List.filter_nil,
    List.eraseDups_append, List.removeAll, List.filter_cons_of_pos (by simpa [spells] using absent)]
  rfl

private theorem spelled_concat_of_old (old : isRule text = false ∨ text ∈ spelled texts) :
    spelled (texts ++ [text]) = spelled texts := by
  rw [spelled, List.filter_append]
  cases spells : isRule text with
  | false =>
      rw [List.filter_cons_of_neg (by simp [spells]), List.filter_nil, List.append_nil, spelled]
  | true =>
      have member : text ∈ spelled texts := old.resolve_left (by simp [spells])
      have present : text ∈ texts.filter isRule := by simpa [spelled] using member
      rw [List.filter_cons_of_pos spells, List.filter_nil, List.eraseDups_append, List.removeAll,
        List.filter_cons_of_neg (by simpa [spells] using present)]
      exact List.append_nil _

private theorem mem_of_mem_upTo {items : List String} (member : text ∈ upTo capacity items) :
    text ∈ items := by
  cases capacity with
  | none => exact member
  | some limit => exact List.mem_of_mem_take member

/-- There is room for one more of the items. -/
def HasRoom (capacity : Option Nat) (items : List String) : Prop :=
  ∀ limit ∈ capacity, items.length < limit

private theorem upTo_concat_of_room {items : List String}
    (room : HasRoom capacity (upTo capacity items)) :
    upTo capacity (items ++ [text]) = upTo capacity items ++ [text] := by
  cases capacity with
  | none => rfl
  | some limit =>
      have taken : (items.take limit).length < limit := room limit rfl
      have fewer : items.length < limit := by
        rw [List.length_take] at taken
        omega
      rw [upTo, upTo, List.take_of_length_le (by simp; omega),
        List.take_of_length_le (Nat.le_of_lt fewer)]

private theorem upTo_concat_of_full {items : List String}
    (full : ¬HasRoom capacity (upTo capacity items)) :
    upTo capacity (items ++ [text]) = upTo capacity items := by
  cases capacity with
  | none => exact absurd (by simp [HasRoom]) full
  | some limit =>
      have enough : limit ≤ items.length := by
        by_contra fewer
        refine full fun other same => ?_
        obtain rfl : limit = other := Option.some.inj same
        rw [upTo, List.length_take]
        omega
      rw [upTo, upTo, List.take_append_of_le_length enough]

/-- A text that is not remembered although it spells a rule and was requested came when there was
no room. -/
private theorem not_hasRoom_of_mem_spelled (member : text ∈ spelled texts)
    (absent : text ∉ kept capacity texts) : ¬HasRoom capacity (kept capacity texts) := by
  intro room
  cases capacity with
  | none => exact absent member
  | some limit =>
      have taken : ((spelled texts).take limit).length < limit := room limit rfl
      have whole : (spelled texts).take limit = spelled texts := by
        rw [List.length_take] at taken
        exact List.take_of_length_le (by omega)
      rw [kept, upTo, whole] at absent
      exact absent member

/-- A further request makes the cache remember its text if the text spells a rule, is not
remembered, and there is room. -/
private theorem kept_concat_of_added (spells : isRule text = true)
    (absent : text ∉ kept capacity texts) (room : HasRoom capacity (kept capacity texts)) :
    kept capacity (texts ++ [text]) = kept capacity texts ++ [text] := by
  have new : text ∉ spelled texts := fun member =>
    not_hasRoom_of_mem_spelled member absent room
  rw [kept, spelled_concat_of_new spells new]
  exact upTo_concat_of_room room

private theorem kept_concat_of_same (same : isRule text = false ∨ text ∈ kept capacity texts ∨
    ¬HasRoom capacity (kept capacity texts)) :
    kept capacity (texts ++ [text]) = kept capacity texts := by
  by_cases old : isRule text = false ∨ text ∈ spelled texts
  · rw [kept, spelled_concat_of_old old, kept]
  · obtain ⟨spells, new⟩ := not_or.mp old
    have full : ¬HasRoom capacity (kept capacity texts) := by
      rcases same with unspelled | member | full
      · exact absurd unspelled spells
      · exact absurd (mem_of_mem_upTo member) new
      · exact full
    rw [kept, spelled_concat_of_new (by simpa using spells) new]
    exact upTo_concat_of_full full

private theorem hitCount_concat :
    hitCount capacity (texts ++ [text]) =
      hitCount capacity texts + if text ∈ kept capacity texts then 1 else 0 := by
  have before : ∀ place ∈ List.range texts.length,
      ((texts ++ [text])[place]?.any
          (kept capacity ((texts ++ [text]).take place)).contains = true ↔
        texts[place]?.any (kept capacity (texts.take place)).contains = true) := by
    intro place inside
    have below : place < texts.length := List.mem_range.mp inside
    rw [List.getElem?_append_left below, List.take_append_of_le_length (Nat.le_of_lt below)]
  rw [hitCount, List.length_append, List.length_singleton, List.range_succ, List.countP_append,
    List.countP_congr before, List.countP_singleton, List.getElem?_concat_length, List.take_left]
  simp [hitCount]

theorem hitCount_le_length : hitCount capacity texts ≤ texts.length := by
  have bound := List.countP_le_length (l := List.range texts.length)
    (p := fun place => texts[place]?.any (kept capacity (texts.take place)).contains)
  rwa [List.length_range] at bound

/-! ## The cache that requests lead to -/

private theorem isRule_of_mem_kept (member : text ∈ kept capacity texts) : isRule text = true :=
  (mem_spelled_iff.mp (mem_of_mem_upTo member)).2

private theorem map_fst_filterMap {items : List String}
    (spell : ∀ text ∈ items, isRule text = true) :
    (items.filterMap fun text =>
      (Rule.parse text).toOption.map fun rule => (text, rule)).map (·.1) = items := by
  induction items with
  | nil => rfl
  | cons text items ih =>
      obtain ⟨here, there⟩ := List.forall_mem_cons.mp spell
      cases read : Rule.parse text with
      | error error => simp [isRule, read, Except.isOk, Except.toBool] at here
      | ok rule =>
          rw [List.filterMap_cons_some (by rw [read]; rfl), List.map_cons, ih there]

/-- The texts that the cache remembers are the ones that it keeps. -/
theorem keys_ofRequests (capacity : Option Nat) (texts : List String) :
    (ofRequests capacity texts).entries.map (·.1) = kept capacity texts :=
  map_fst_filterMap fun _ => isRule_of_mem_kept

/-- Each text is remembered with the rule that it spells. -/
theorem parsed_ofRequests :
    ∀ entry ∈ (ofRequests capacity texts).entries, Rule.parse entry.1 = .ok entry.2 := by
  intro entry member
  obtain ⟨text, -, built⟩ := List.mem_filterMap.mp member
  obtain ⟨rule, read, rfl⟩ := Option.map_eq_some_iff.mp built
  cases spelt : Rule.parse text with
  | error error => simp [spelt, Except.toOption] at read
  | ok other => simpa [spelt, Except.toOption] using read

theorem hasRoom_iff {cache : RuleCache} :
    cache.hasRoom = true ↔ HasRoom cache.capacity (cache.entries.map (·.1)) := by
  rw [hasRoom, HasRoom, List.length_map]
  cases cache.capacity with
  | none => simp
  | some limit =>
      rw [Option.all_some, decide_eq_true_iff]
      simp [size]

theorem get?_ofRequests_eq_none_iff :
    (ofRequests capacity texts).get? text = none ↔ text ∉ kept capacity texts := by
  rw [get?_eq_none_iff, keys_ofRequests]

private theorem ofRequests_concat_of_hit (member : text ∈ kept capacity texts) :
    ofRequests capacity (texts ++ [text]) = (ofRequests capacity texts).countHit := by
  have same := kept_concat_of_same (.inr (.inl member))
  have counted : hitCount capacity (texts ++ [text]) = hitCount capacity texts + 1 := by
    rw [hitCount_concat, if_pos member]
  simp only [ofRequests, countHit, same, counted, List.length_append, List.length_singleton,
    Nat.add_sub_add_right]

private theorem hitCount_concat_of_miss (absent : text ∉ kept capacity texts) :
    hitCount capacity (texts ++ [text]) = hitCount capacity texts := by
  rw [hitCount_concat, if_neg absent, Nat.add_zero]

private theorem misses_concat :
    (texts ++ [text]).length - hitCount capacity texts =
      texts.length - hitCount capacity texts + 1 := by
  have bound : hitCount capacity texts ≤ texts.length := hitCount_le_length
  rw [List.length_append, List.length_singleton]
  omega

private theorem ofRequests_concat_of_same (absent : text ∉ kept capacity texts)
    (same : kept capacity (texts ++ [text]) = kept capacity texts) :
    ofRequests capacity (texts ++ [text]) = (ofRequests capacity texts).countMiss := by
  simp only [ofRequests, countMiss, same, hitCount_concat_of_miss absent, misses_concat]

private theorem ofRequests_concat_of_added {rule : Rule} (read : Rule.parse text = .ok rule)
    (absent : text ∉ kept capacity texts) (room : HasRoom capacity (kept capacity texts)) :
    ofRequests capacity (texts ++ [text]) =
      { (ofRequests capacity texts).countMiss with
        entries := (ofRequests capacity texts).entries ++ [(text, rule)] } := by
  have spells : isRule text = true := by simp [isRule, read, Except.isOk, Except.toBool]
  have more := kept_concat_of_added spells absent room
  have entry : [text].filterMap (fun text =>
      (Rule.parse text).toOption.map fun rule => (text, rule)) = [(text, rule)] := by
    simp [read, Except.toOption]
  simp only [ofRequests, countMiss, more, List.filterMap_append, entry,
    hitCount_concat_of_miss absent, misses_concat]

/-- A request leads to the cache of one more requested text. -/
theorem getOrParse_ofRequests (capacity : Option Nat) (texts : List String) (text : String) :
    ((ofRequests capacity texts).getOrParse text).2 = ofRequests capacity (texts ++ [text]) := by
  unfold getOrParse
  split
  · next rule found =>
      have member : text ∈ kept capacity texts := by
        by_contra absent
        simp [get?_ofRequests_eq_none_iff.mpr absent] at found
      exact (ofRequests_concat_of_hit member).symm
  · next unknown =>
      have absent := get?_ofRequests_eq_none_iff.mp unknown
      split
      · next rule read =>
          have same : HasRoom capacity (kept capacity texts) ↔
              (ofRequests capacity texts).countMiss.hasRoom = true := by
            rw [hasRoom_iff, ← keys_ofRequests]
            rfl
          unfold insert
          split
          · next room => exact (ofRequests_concat_of_added read absent (same.mpr room)).symm
          · next full =>
              have stays : kept capacity (texts ++ [text]) = kept capacity texts :=
                kept_concat_of_same (.inr (.inr fun room => full (same.mp room)))
              exact (ofRequests_concat_of_same absent stays).symm
      · next error refused =>
          have unspelled : isRule text = false := by
            simp [isRule, refused, Except.isOk, Except.toBool]
          exact (ofRequests_concat_of_same absent (kept_concat_of_same (.inl unspelled))).symm

/-- A malformed text changes nothing but the number of misses. -/
theorem getOrParse_of_refused {error : RuleError} (refused : Rule.parse text = .error error) :
    (ofRequests capacity texts).getOrParse text =
      (.error error, (ofRequests capacity texts).countMiss) := by
  have absent : text ∉ kept capacity texts := by
    intro member
    have spells := isRule_of_mem_kept member
    simp [isRule, refused, Except.isOk, Except.toBool] at spells
  rw [getOrParse, get?_ofRequests_eq_none_iff.mpr absent, refused]

/-- A request is told that its rule was remembered exactly when its text is one of those that the
cache keeps. -/
theorem hit_ofRequests_iff (capacity : Option Nat) (texts : List String) (text : String) :
    (∃ rule, ((ofRequests capacity texts).getOrParse text).1 = .ok (rule, true)) ↔
      text ∈ kept capacity texts := by
  unfold getOrParse
  cases found : (ofRequests capacity texts).get? text with
  | none =>
      have absent := get?_ofRequests_eq_none_iff.mp found
      refine iff_of_false (fun hit => ?_) absent
      obtain ⟨rule, same⟩ := hit
      dsimp only at same
      split at same <;> simp at same
  | some rule =>
      refine iff_of_true ⟨rule, rfl⟩ ?_
      by_contra absent
      simp [get?_ofRequests_eq_none_iff.mpr absent] at found

end

/-! ## Runs -/

private theorem insert_hits (cache : RuleCache) (text : String) (rule : Rule) :
    (cache.insert text rule).hits = cache.hits := by
  unfold insert
  split <;> rfl

private theorem insert_misses (cache : RuleCache) (text : String) (rule : Rule) :
    (cache.insert text rule).misses = cache.misses := by
  unfold insert
  split <;> rfl

/-- A request is counted once, whatever comes of it. -/
theorem counted_getOrParse (cache : RuleCache) (text : String) :
    (cache.getOrParse text).2.hits + (cache.getOrParse text).2.misses =
      cache.hits + cache.misses + 1 := by
  unfold getOrParse
  split
  · exact Nat.add_right_comm cache.hits 1 cache.misses
  · split
    · rw [insert_hits, insert_misses]
      rfl
    · rfl

/-- Nothing has been requested from a new cache. -/
theorem ofRequests_nil (capacity : Option Nat) : ofRequests capacity [] = { capacity } := by
  cases capacity with
  | none => rfl
  | some limit => simp [ofRequests, kept, spelled, upTo, hitCount]

theorem perform_ofRequests (capacity : Option Nat) (texts : List String) (operation : Operation) :
    ((ofRequests capacity texts).perform operation).2 =
      ofRequests capacity (requestedAfter texts operation) := by
  cases operation with
  | request text => exact getOrParse_ofRequests capacity texts text
  | get text => rfl
  | clear => exact (ofRequests_nil capacity).symm

/-- A run goes on from the texts requested before it. -/
theorem after_ofRequests (capacity : Option Nat) (texts : List String)
    (operations : List Operation) :
    (ofRequests capacity texts).after operations =
      ofRequests capacity (operations.foldl requestedAfter texts) := by
  induction operations generalizing texts with
  | nil => rfl
  | cons operation rest ih =>
      rw [after, List.foldl_cons, perform_ofRequests, List.foldl_cons]
      exact ih (requestedAfter texts operation)

/-- After any run on a new cache, the texts requested since it was last emptied tell all about
it. -/
theorem after_eq_ofRequests (capacity : Option Nat) (operations : List Operation) :
    RuleCache.after { capacity } operations = ofRequests capacity (requested operations) := by
  rw [← ofRequests_nil, after_ofRequests, requested]

end Gleaner.RuleCache
