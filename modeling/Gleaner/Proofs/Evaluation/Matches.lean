import Gleaner.Proofs.Evaluation.Fallback
import Gleaner.Proofs.Evaluation.Operands

/-!
# Chains that succeed

Whether the value of a chain counts as a match can be read off its operands: one of them has to be
a scalar other than nothing, or a sequence with something in it that is not cut off.
-/

namespace Gleaner

/-- The operand has something that is not lost in a value of this length: a scalar is never lost,
and an element of a sequence is unless the value ends before it. -/
def Value.ShowsIn (operand value : Value) : Prop :=
  match operand with
  | .scalar item => item ≠ .null
  | .sequence items => ∃ length index item, value.HasLength length ∧ index < length ∧
      items[index]? = some item ∧ item ≠ .null

theorem Value.isSuccess_scalar_iff {item : Primitive} :
    (scalar item).isSuccess = true ↔ item ≠ .null := by
  rw [isSuccess, Bool.not_eq_true', ← Bool.not_eq_true, Primitive.isNull_iff]

theorem Value.isSuccess_sequence_iff {items : List Primitive} :
    (sequence items).isSuccess = true ↔ ∃ item ∈ items, item ≠ .null := by
  simp only [isSuccess, List.any_eq_true, Bool.not_eq_true', ← Bool.not_eq_true,
    Primitive.isNull_iff, ne_eq]

private theorem Value.isSuccess_iff_showsIn_self (value : Value) :
    value.isSuccess = true ↔ value.ShowsIn value := by
  cases value with
  | scalar item => exact isSuccess_scalar_iff
  | sequence items =>
      rw [isSuccess_sequence_iff]
      constructor
      · rintro ⟨item, member, present⟩
        obtain ⟨index, found⟩ := List.mem_iff_getElem?.mp member
        exact ⟨items.length, index, item, ⟨items, rfl, rfl⟩,
          (List.getElem?_eq_some_iff.mp found).1, found, present⟩
      · rintro ⟨length, index, item, -, -, found, present⟩
        exact ⟨item, List.mem_of_getElem? found, present⟩

namespace Operands

/-- No operand is an empty sequence. -/
def Filled (operands : List Value) : Prop :=
  .sequence [] ∉ operands

private theorem mem_itemsAt_iff {operands : List Value} {index : Nat} {item : Primitive} :
    item ∈ itemsAt operands index ↔
      .scalar item ∈ operands ∨
        ∃ items, .sequence items ∈ operands ∧ items[index]? = some item := by
  rw [itemsAt, List.mem_filterMap]
  constructor
  · rintro ⟨operand, member, found⟩
    cases operand with
    | scalar other =>
        obtain rfl := Option.some.inj found
        exact .inl member
    | sequence items => exact .inr ⟨items, member, found⟩
  · rintro (member | ⟨items, member, found⟩)
    · exact ⟨_, member, rfl⟩
    · exact ⟨_, member, found⟩

private theorem mem_reachingAt_iff {operands : List Value} {index : Nat} {item : Primitive} :
    item ∈ reachingAt operands index ↔
      (∃ place, operands[place]? = some (.scalar item) ∧ index < reach operands place) ∨
        ∃ items, .sequence items ∈ operands ∧ items[index]? = some item := by
  rw [reachingAt, List.mem_filterMap]
  constructor
  · rintro ⟨⟨operand, place⟩, member, found⟩
    cases operand with
    | scalar other =>
        obtain ⟨reached, same⟩ := Option.ite_none_right_eq_some.mp found
        obtain rfl := Option.some.inj same
        exact .inl ⟨place, List.mk_mem_zipIdx_iff_getElem?.mp member, reached⟩
    | sequence items => exact .inr ⟨items, List.fst_mem_of_mem_zipIdx member, found⟩
  · rintro (⟨place, here, reached⟩ | ⟨items, member, found⟩)
    · exact ⟨_, List.mk_mem_zipIdx_iff_getElem?.mpr here, if_pos reached⟩
    · obtain ⟨place, here⟩ := List.mem_iff_getElem?.mp member
      exact ⟨_, List.mk_mem_zipIdx_iff_getElem?.mpr here, found⟩

/-! ## Sequences that are not empty -/

section

variable {operands : List Value}

private theorem Filled.lengths_pos (filled : Filled operands) {length : Nat}
    (member : length ∈ lengths operands) : 0 < length := by
  obtain ⟨operand, inside, found⟩ := List.mem_filterMap.mp member
  cases operand with
  | scalar item => contradiction
  | sequence items =>
      obtain rfl := Option.some.inj found
      cases items with
      | nil => exact absurd inside filled
      | cons item items => exact Nat.succ_pos _

private theorem Filled.longest_pos (filled : Filled operands) (sequences : lengths operands ≠ []) :
    0 < longest (lengths operands) := by
  obtain ⟨length, member⟩ := List.exists_mem_of_ne_nil _ sequences
  exact Nat.lt_of_lt_of_le (filled.lengths_pos member) (le_longest member)

private theorem Filled.reach_pos (filled : Filled operands) (sequences : lengths operands ≠ [])
    (place : Nat) : 0 < reach operands place := by
  rw [reach]
  split
  · cases found : lengths operands with
    | nil => exact absurd found sequences
    | cons first others =>
        have member : first ∈ lengths operands := found ▸ List.mem_cons_self
        exact filled.lengths_pos member
  · next before some =>
      have taken : Filled (operands.take place) := fun member =>
        filled (List.mem_of_mem_take member)
      exact taken.longest_pos some

private theorem foldl_min_pos {first : Nat} {others : List Nat} (positive : 0 < first)
    (rest : ∀ length ∈ others, 0 < length) : 0 < others.foldl min first := by
  induction others generalizing first with
  | nil => exact positive
  | cons other others ih =>
      obtain ⟨here, behind⟩ := List.forall_mem_cons.mp rest
      exact ih (Nat.lt_min.mpr ⟨positive, here⟩) behind

private theorem isSuccess_elements_iff {parts : Nat → List Primitive} {length : Nat} :
    (elements parts length).isSuccess = true ↔
      ∃ index < length, ∃ item ∈ parts index, item ≠ .null := by
  simp [elements, Value.isSuccess_sequence_iff, Primitive.joinAll_eq_null_iff]

/-- If the parts are what the operands have, and scalars are there at the start, then there is a
match as soon as an operand has something that is not lost. -/
private theorem isSuccess_elements_iff_shows {parts : Nat → List Primitive} {length : Nat}
    (positive : 0 < length)
    (sound : ∀ index, ∀ item ∈ parts index, item ∈ itemsAt operands index)
    (scalars : ∀ item, .scalar item ∈ operands → item ∈ parts 0)
    (sequences : ∀ items index item, .sequence items ∈ operands → items[index]? = some item →
      item ∈ parts index) :
    (elements parts length).isSuccess = true ↔
      ∃ operand ∈ operands, operand.ShowsIn (elements parts length) := by
  rw [isSuccess_elements_iff]
  constructor
  · rintro ⟨index, inside, item, member, present⟩
    rcases mem_itemsAt_iff.mp (sound index item member) with scalar | ⟨items, sequence, found⟩
    · exact ⟨_, scalar, present⟩
    · exact ⟨_, sequence, length, index, item, ⟨_, rfl, by simp⟩, inside, found, present⟩
  · rintro ⟨operand, member, shows⟩
    cases operand with
    | scalar item => exact ⟨0, positive, item, scalars item member, shows⟩
    | sequence items =>
        obtain ⟨other, index, item, ⟨kept, same, rfl⟩, inside, found, present⟩ := shows
        obtain rfl := Value.sequence.inj same
        rw [List.length_map, List.length_range] at inside
        exact ⟨index, inside, item, sequences items index item member found, present⟩

private theorem isSuccess_itemsAt_iff {length : Nat} (positive : 0 < length) :
    (elements (itemsAt operands) length).isSuccess = true ↔
      ∃ operand ∈ operands, operand.ShowsIn (elements (itemsAt operands) length) :=
  isSuccess_elements_iff_shows positive (fun _ _ member => member)
    (fun _ member => mem_itemsAt_iff.mpr (.inl member))
    fun items _ _ member found => mem_itemsAt_iff.mpr (.inr ⟨items, member, found⟩)

private theorem isSuccess_reachingAt_iff (filled : Filled operands)
    (sequences : lengths operands ≠ []) :
    let value := elements (reachingAt operands) (longest (lengths operands))
    value.isSuccess = true ↔ ∃ operand ∈ operands, operand.ShowsIn value := by
  refine isSuccess_elements_iff_shows (filled.longest_pos sequences) ?sound ?scalars ?sequences
  case sound =>
    intro index item member
    rcases mem_reachingAt_iff.mp member with ⟨place, here, -⟩ | sequence
    · exact mem_itemsAt_iff.mpr (.inl (List.mem_of_getElem? here))
    · exact mem_itemsAt_iff.mpr (.inr sequence)
  case scalars =>
    intro item member
    obtain ⟨place, here⟩ := List.mem_iff_getElem?.mp member
    exact mem_reachingAt_iff.mpr (.inl ⟨place, here, filled.reach_pos sequences place⟩)
  case sequences =>
    intro items index item member found
    exact mem_reachingAt_iff.mpr (.inr ⟨items, member, found⟩)

private theorem isSuccess_joinAll_iff_of_scalars (scalars : lengths operands = []) :
    let value := Value.scalar (.joinAll (itemsAt operands 0))
    value.isSuccess = true ↔ ∃ operand ∈ operands, operand.ShowsIn value := by
  have alone := lengths_eq_nil_iff.mp scalars
  simp only [Value.isSuccess_scalar_iff, ne_eq, Primitive.joinAll_eq_null_iff, not_forall,
    exists_prop, mem_itemsAt_iff]
  constructor
  · rintro ⟨item, member | ⟨items, member, -⟩, present⟩
    · exact ⟨_, member, present⟩
    · exact absurd member (alone items)
  · rintro ⟨operand, member, shows⟩
    cases operand with
    | scalar item => exact ⟨item, .inl member, shows⟩
    | sequence items => exact absurd member (alone items)

private theorem isSuccess_joined_iff {policy : ZipPolicy} {value : Value} (filled : Filled operands)
    (done : joined policy operands = .ok value) :
    value.isSuccess = true ↔ ∃ operand ∈ operands, operand.ShowsIn value := by
  cases found : lengths operands with
  | nil =>
      rw [joined_of_scalars found] at done
      obtain rfl := Except.ok.inj done
      exact isSuccess_joinAll_iff_of_scalars found
  | cons first others =>
      have positive : ∀ length ∈ first :: others, 0 < length := fun length member =>
        filled.lengths_pos (found ▸ member)
      obtain ⟨here, rest⟩ := List.forall_mem_cons.mp positive
      cases policy with
      | truncate =>
          rw [joined_truncate found] at done
          obtain rfl := Except.ok.inj done
          exact isSuccess_itemsAt_iff (foldl_min_pos here rest)
      | pad =>
          rw [joined_pad found, ← found] at done
          obtain rfl := Except.ok.inj done
          exact isSuccess_reachingAt_iff filled (by simp [found])
      | error =>
          cases even : others.find? (· ≠ first) with
          | none =>
              rw [joined_error_of_even found even] at done
              obtain rfl := Except.ok.inj done
              exact isSuccess_itemsAt_iff here
          | some other =>
              rw [joined_error_of_uneven found even] at done
              contradiction

private theorem isSuccess_merged_iff {policy : ZipPolicy} {value : Value} (filled : Filled operands)
    (done : merged policy operands = .ok value) :
    value.isSuccess = true ↔ ∃ operand ∈ operands, operand.ShowsIn value := by
  match operands, done with
  | [], done => exact isSuccess_joined_iff filled (show joined policy _ = _ from done)
  | first :: second :: rest, done =>
      exact isSuccess_joined_iff filled (show joined policy _ = _ from done)
  | [only], done =>
      obtain rfl := Except.ok.inj done
      simpa using only.isSuccess_iff_showsIn_self

end

end Operands

/-! ## Chains -/

section

variable {Tree : Type} {backends : Backends Tree} {config : EngineConfig}
  {document : Document Tree}

private theorem Value.absentAsNull_ne_empty (value : Value) :
    value.absentAsNull ≠ .sequence [] := by
  cases value with
  | scalar item => nofun
  | sequence items => cases items <;> nofun

private theorem filled_of_finds {terms : List Term} {operands : List Value}
    (found : List.Forall₂ (Term.Finds backends config document) terms operands) :
    Operands.Filled operands := by
  induction found with
  | nil => exact List.not_mem_nil
  | cons here _ ih =>
      obtain ⟨value, -, rfl⟩ := here
      intro member
      rcases List.mem_cons.mp member with empty | behind
      · exact value.absentAsNull_ne_empty empty.symm
      · exact ih behind

private theorem exists_operand_of_mem {terms : List Term} {operands : List Value} {term : Term}
    (found : List.Forall₂ (Term.Finds backends config document) terms operands)
    (member : term ∈ terms) :
    ∃ operand ∈ operands, term.Finds backends config document operand := by
  induction found with
  | nil => contradiction
  | cons here _ ih =>
      rcases List.mem_cons.mp member with rfl | behind
      · exact ⟨_, List.mem_cons_self, here⟩
      · obtain ⟨operand, inside, finds⟩ := ih behind
        exact ⟨operand, List.mem_cons_of_mem _ inside, finds⟩

private theorem not_showsIn_of_nulls {operand value : Value}
    (nulls : operand = .null ∨ ∃ length, operand = .sequence (List.replicate length .null)) :
    ¬operand.ShowsIn value := by
  rcases nulls with rfl | ⟨length, rfl⟩
  · exact fun shows => shows rfl
  · rintro ⟨_, index, item, -, -, found, present⟩
    exact present (List.eq_of_mem_replicate (List.mem_of_getElem? found))

/-- A chain has a match exactly when an operand has something that is not lost in its value.  So a
chain with a literal is never passed over, and one that finds only nothing always is. -/
theorem Chain.isSuccess_iff_shows (backends : Backends Tree) (config : EngineConfig)
    (document : Document Tree) (chain : Chain) (value : Value)
    (done : chain.evaluate backends config document = .ok value) :
    ∃ operands, chain.Finds backends config document operands ∧
      (value.isSuccess = true ↔ ∃ operand ∈ operands, operand.ShowsIn value) ∧
      ((∃ term ∈ chain.terms, ∃ literal, term.selector = .text literal ∧ term.sanitizer = none) →
        value.isSuccess = true ∧
          ∀ (rule : Rule) (before after : List Chain) (outcome : Outcome),
            rule.groups = before ++ chain :: after →
              rule.evaluate backends config document = .ok outcome →
                ∃ group ≤ before.length, outcome.matchedGroup = some group) ∧
      ((∀ operand ∈ operands, operand = .null ∨
          ∃ length, operand = .sequence (List.replicate length .null)) →
        value.isSuccess = false) := by
  obtain ⟨operands, found⟩ := exists_finds_of_mergeTerms done
  have joins : Operands.merged config.zipPolicy operands = .ok value := by
    rw [Chain.evaluate, mergeTerms_eq_merged found] at done
    cases joins : Operands.merged config.zipPolicy operands with
    | error lengths => simp [joins, Except.mapError] at done
    | ok joined => simpa [joins, Except.mapError] using done
  have shown := Operands.isSuccess_merged_iff (filled_of_finds found) joins
  refine ⟨operands, found, shown, ?_, fun nulls => ?_⟩
  · rintro ⟨⟨selector, sanitizer⟩, member, literal, rfl, rfl⟩
    obtain ⟨operand, inside, resolved, same, rfl⟩ := exists_operand_of_mem found member
    obtain rfl := Except.ok.inj same
    have shows : (Value.scalar (.string literal)).ShowsIn value := nofun
    have success : value.isSuccess = true := shown.mpr ⟨_, inside, shows⟩
    refine ⟨success, fun rule before after outcome split evaluated => ?_⟩
    exact (tryChains_eq_ok_iff.mp evaluated).exists_le split done success
  · rw [← Bool.not_eq_true, shown]
    rintro ⟨operand, inside, shows⟩
    exact not_showsIn_of_nulls (nulls operand inside) shows

/-- Of two lists the longer one is cut before its only item, which leaves no match; an empty literal
makes one, and is not passed over. -/
theorem Chain.isSuccess_of_cut_list :
    let found (query : String) : List (Option String) :=
      if query = ".a" then [none, none] else [none, none, some "x"]
    let backends : Backends Unit :=
      { markup := { load := fun _ => (), queryAll := fun _ query _ => .ok (found query) }
        path := jsonPathBackend }
    let document : Document Unit := .html "" ()
    let nulls : Chain := { terms := [{ selector := .css ".a" .text }] }
    let lists : Chain := { terms := nulls.terms ++ [{ selector := .css ".b" .text }] }
    let literal : Chain := { terms := lists.terms ++ [{ selector := .text "" }] }
    let rule : Rule := { groups := [lists, literal, nulls] }
    let cut : Value := .sequence [.null, .null]
    let made : Value := .sequence [.string "", .string ""]
    lists.evaluate backends {} document = .ok cut ∧
      (∃ operands, lists.Finds backends {} document operands ∧
        (cut.isSuccess = true ↔ ∃ operand ∈ operands, operand.ShowsIn cut)) ∧
      literal.evaluate backends {} document = .ok made ∧ made.isSuccess = true ∧
      (∃ outcome, rule.evaluate backends {} document = .ok outcome ∧
        ∃ group ≤ 1, outcome.matchedGroup = some group) ∧
      nulls.evaluate backends {} document = .ok cut ∧ cut.isSuccess = false := by
  intro found backends document nulls lists literal rule cut made
  have long : lists.evaluate backends {} document = .ok cut := by decide
  have whole : literal.evaluate backends {} document = .ok made := by decide
  have short : nulls.evaluate backends {} document = .ok cut := by decide
  obtain ⟨operands, finds, shown, -, -⟩ := isSuccess_iff_shows backends {} document lists cut long
  obtain ⟨-, -, -, literally, -⟩ := isSuccess_iff_shows backends {} document literal made whole
  obtain ⟨success, kept⟩ := literally ⟨{ selector := .text "" }, by simp [literal], "", rfl, rfl⟩
  obtain ⟨none, ⟨⟩ | ⟨⟨value, resolved, rfl⟩, ⟨⟩⟩, -, -, missed⟩ :=
    isSuccess_iff_shows backends {} document nulls cut short
  obtain rfl := Except.ok.inj resolved
  have outcome : rule.evaluate backends {} document =
      .ok { value := made, matchedGroup := some 1, attempts := 2 } := by decide
  refine ⟨long, ⟨operands, finds, shown⟩, whole, success,
    ⟨_, outcome, kept rule [lists] [nulls] _ rfl outcome⟩, short, missed ?_⟩
  intro operand member
  obtain rfl := List.mem_singleton.mp member
  exact .inr ⟨2, rfl⟩

end

end Gleaner
