import Gleaner.Proofs.Json.Path.Names
import Gleaner.Proofs.Rule.Scan.Segment

/-!
# Reads within bounds

Positions in arrays are machine words, and indices of paths are signed words.  The place of an
element is computed without wrapping around, the least index included; together with the scans of
rules, nothing is read that is not there.
-/

namespace Gleaner.Json

/-! ## Places as words -/

/-- The magnitude of an index.  It has room in an unsigned word even for the least index. -/
def unsignedAbs (index : Int64) : UInt64 :=
  index.abs.toUInt64

/-- The word with the value of a number, if there is one. -/
def word? (number : Int) : Option USize :=
  if 0 ≤ number ∧ number < USize.size then some (USize.ofNat number.toNat) else none

/-- The difference of two words, if it is not negative. -/
def checkedSub? (size back : USize) : Option USize :=
  if back ≤ size then some (size - back) else none

/-- The place that an index stands for in an array of a size. -/
def resolveWord? (size : USize) (index : Int64) : Option USize :=
  if index < 0 then (word? (unsignedAbs index).toNat).bind (checkedSub? size)
  else word? index.toInt

/-- The element that an index stands for. -/
def elementAt? (items : List Json) (index : Int64) : Option Json :=
  (resolveWord? (USize.ofNat items.length) index).bind (items[·.toNat]?)

private theorem toNat_unsignedAbs (index : Int64) :
    (unsignedAbs index).toNat = index.toInt.natAbs := by
  have magnitude : (unsignedAbs index).toNat = index.toBitVec.abs.toNat := rfl
  have signed : index.toInt = index.toBitVec.toInt := rfl
  have bound := index.toBitVec.isLt
  rw [magnitude, signed, BitVec.toNat_abs, BitVec.toInt_eq_msb_cond]
  split
  · omega
  · simp

private theorem word?_eq_some_iff {number : Int} {word : USize} :
    word? number = some word ↔ (word.toNat : Int) = number := by
  have bound := word.toNat_lt_size
  constructor
  · intro found
    obtain ⟨⟨positive, small⟩, same⟩ := Option.ite_none_right_eq_some.mp found
    obtain rfl := Option.some.inj same
    rw [USize.toNat_ofNat_of_lt' (by omega)]
    omega
  · rintro rfl
    have inside : (0 : Int) ≤ word.toNat ∧ (word.toNat : Int) < USize.size := by omega
    rw [word?, if_pos inside, Int.toNat_natCast, USize.ofNat_toNat]

private theorem checkedSub?_eq_some_iff {size back place : USize} :
    checkedSub? size back = some place ↔ (place.toNat : Int) = size.toNat - back.toNat := by
  unfold checkedSub?
  constructor
  · intro found
    obtain ⟨ordered, same⟩ := Option.ite_none_right_eq_some.mp found
    obtain rfl := Option.some.inj same
    have values := USize.le_iff_toNat_le.mp ordered
    rw [USize.toNat_sub_of_le _ _ ordered]
    omega
  · intro difference
    have ordered : back ≤ size := USize.le_iff_toNat_le.mpr (by omega)
    have same : size - back = place := by
      rw [← USize.toNat_inj, USize.toNat_sub_of_le _ _ ordered]
      omega
    rw [if_pos ordered, same]

private theorem resolveWord?_eq_some_iff {size : USize} {index : Int64} {place : USize} :
    resolveWord? size index = some place ↔
      (place.toNat : Int) = if index < 0 then size.toNat + index.toInt else index.toInt := by
  unfold resolveWord?
  split
  · next negative =>
      have sign : index.toInt < 0 := Int64.lt_iff_toInt_lt.mp negative
      have magnitude := toNat_unsignedAbs index
      have room := size.toNat_lt_size
      simp only [Option.bind_eq_some_iff, word?_eq_some_iff, checkedSub?_eq_some_iff]
      constructor
      · rintro ⟨back, same, difference⟩
        omega
      · intro sum
        have small : (unsignedAbs index).toNat < USize.size := by omega
        refine ⟨USize.ofNat (unsignedAbs index).toNat, ?_, ?_⟩
        · rw [USize.toNat_ofNat_of_lt' small]
        · rw [USize.toNat_ofNat_of_lt' small]
          omega
  · exact word?_eq_some_iff

theorem resolveIndex?_eq_some_iff {size place : Nat} {position : Int} :
    resolveIndex? size position = some place ↔
      (place : Int) = if position < 0 then size + position else position := by
  unfold resolveIndex?
  split_ifs <;> simp only [Option.some.injEq, false_iff] <;> omega

/-- The element that an index stands for is found as with exact numbers. -/
theorem elementAt?_eq {items : List Json} (size : items.length < USize.size) (index : Int64) :
    elementAt? items index = (resolveIndex? items.length index.toInt).bind (items[·]?) := by
  have length : (USize.ofNat items.length).toNat = items.length := USize.toNat_ofNat_of_lt' size
  have sign : index < 0 ↔ index.toInt < 0 := Int64.lt_iff_toInt_lt
  refine Option.ext fun item => ?_
  simp only [elementAt?, Option.bind_eq_some_iff, resolveWord?_eq_some_iff,
    resolveIndex?_eq_some_iff, length, sign]
  constructor
  · rintro ⟨place, value, found⟩
    exact ⟨place.toNat, value, found⟩
  · rintro ⟨place, value, found⟩
    -- An element that is there is at a place that is a word.
    obtain ⟨inside, -⟩ := List.getElem?_eq_some_iff.mp found
    have word : (USize.ofNat place).toNat = place := USize.toNat_ofNat_of_lt' (by omega)
    exact ⟨USize.ofNat place, by rw [word]; exact value, by rw [word]; exact found⟩

/-! ## Paths -/

/-- The values that a step leads to, with places as words. -/
def Step.applyWords : Step → Json → List Json
  | index position, array items => (elementAt? items (Int64.ofInt position)).toList
  | step, value => step.apply value

/-- The values that a path leads to from those of one level, with places as words. -/
def Path.descendWords : Path → List Json → List Json
  | [], level => level
  | step :: path, level =>
      let next := level.flatMap step.applyWords
      if next.isEmpty then next else descendWords path next

/-- The values that a path leads to from a root, with places as words. -/
def evaluateWords (root : Json) (text : String) : Except QueryError (List Json) :=
  (Path.compile text).map fun path => path.descendWords [root]

/-- Every array of the value has a word for its size. -/
inductive Addressable : Json → Prop
  | leaf {value} (plain : value.isLeaf = true) : Addressable value
  | array {items} (size : items.length < USize.size)
      (inside : ∀ item ∈ items, Addressable item) : Addressable (.array items)
  | object {members} (inside : ∀ member ∈ members, Addressable member.2) :
      Addressable (.object members)

/-- The indices of the step fit in signed words. -/
def Step.FitsWord : Step → Prop
  | index position => Fits position
  | _ => True

private theorem BracketSpelling.fitsWord {text : List Char} {step : Step}
    (spelt : BracketSpelling text step) : step.FitsWord := by
  cases spelt with
  | wildcard => trivial
  | quoted quote closed => trivial
  | index numeral =>
      cases numeral with
      | zero => exact ⟨by decide, by decide⟩
      | plain magnitude fits => exact fits
      | plus magnitude fits => exact fits
      | minus magnitude fits => exact fits

private theorem StepsSpelling.fitsWord {text : List Char} {path : Path}
    (spelt : StepsSpelling text path) : ∀ step ∈ path, step.FitsWord := by
  induction spelt with
  | nil => simp
  | cons first rest ih =>
      rw [List.forall_mem_cons]
      refine ⟨?_, ih⟩
      cases first with
      | dot bare => trivial
      | bracket inside => exact inside.fitsWord

private theorem PathSpelling.fitsWord {text : List Char} {path : Path}
    (spelt : PathSpelling text path) : ∀ step ∈ path, step.FitsWord := by
  obtain ⟨front, rest, -, -, relative⟩ := spelt.exists_start
  cases relative with
  | steps steps => exact steps.fitsWord
  | named bare steps =>
      rw [List.forall_mem_cons]
      exact ⟨trivial, steps.fitsWord⟩

private theorem Addressable.applyWords_eq {value : Json} (addressable : Addressable value)
    {step : Step} (fits : step.FitsWord) : step.applyWords value = step.apply value := by
  cases step with
  | key name => cases value <;> rfl
  | wildcard => cases value <;> rfl
  | index position =>
      cases addressable with
      | leaf plain => cases value <;> first | rfl | contradiction
      | object inside => rfl
      | @array items size inside =>
          have exact_index : (Int64.ofInt position).toInt = position := by
            obtain ⟨least, greatest⟩ := fits
            simp only [minIndex, maxIndex] at least greatest
            exact Int64.toInt_ofInt_of_le (by omega) (by omega)
          have element := elementAt?_eq size (Int64.ofInt position)
          rw [exact_index] at element
          exact congrArg Option.toList element

private theorem member?_mem {name : String} {members : List (String × Json)} {value : Json}
    (found : member? name members = some value) : ∃ member ∈ members, member.2 = value := by
  obtain ⟨member, inside, same⟩ := Option.map_eq_some_iff.mp found
  exact ⟨member, List.mem_of_find?_eq_some inside, same⟩

private theorem Addressable.of_mem_apply {value inner : Json} (addressable : Addressable value)
    {step : Step} (member : inner ∈ step.apply value) : Addressable inner := by
  cases addressable with
  | leaf plain => cases value <;> cases step <;> contradiction
  | @array items size inside =>
      cases step with
      | key name => simp [Step.apply] at member
      | wildcard => exact inside inner member
      | index position =>
          obtain ⟨place, -, found⟩ := Option.bind_eq_some_iff.mp (Option.mem_toList.mp member)
          exact inside inner (List.mem_of_getElem? found)
  | @object members inside =>
      cases step with
      | index position => simp [Step.apply] at member
      | key name =>
          obtain ⟨entry, there, rfl⟩ := member?_mem (Option.mem_toList.mp member)
          exact inside entry there
      | wildcard =>
          obtain ⟨entry, there, rfl⟩ := List.mem_map.mp member
          exact inside entry there

private theorem descendWords_eq {path : Path} {level : List Json}
    (fits : ∀ step ∈ path, step.FitsWord) (addressable : ∀ value ∈ level, Addressable value) :
    path.descendWords level = path.descend level := by
  induction path generalizing level with
  | nil => rfl
  | cons step path ih =>
      obtain ⟨here, there⟩ := List.forall_mem_cons.mp fits
      have next : level.flatMap step.applyWords = level.flatMap step.apply :=
        List.flatMap_congr fun value member => (addressable value member).applyWords_eq here
      have inner : ∀ value ∈ level.flatMap step.apply, Addressable value := by
        intro value member
        obtain ⟨outer, inside, found⟩ := List.mem_flatMap.mp member
        exact (addressable outer inside).of_mem_apply found
      simp only [Path.descendWords, Path.descend, next, ih there inner]

/-- In a document whose arrays have words for their sizes, a path leads to the same values. -/
theorem evaluateWords_eq {root : Json} (addressable : Addressable root) (text : String) :
    evaluateWords root text = jsonPathBackend.evaluate root text := by
  unfold evaluateWords jsonPathBackend
  dsimp only
  cases read : Path.compile text with
  | error cause => rfl
  | ok path =>
      have fits := (Path.compile_eq_ok_iff.mp read).fitsWord
      exact congrArg Except.ok (descendWords_eq fits (by simpa using addressable))

end Gleaner.Json

namespace Gleaner

open Text Json

/-- No scan asks for a byte or a slice that is not there, so every text is read as a rule or
refused.  The place of an element is computed as with exact numbers, so every path is followed as
far as it leads or refused. -/
theorem reads_in_bounds :
    (∀ text, Rule.Scan.splitGroups text = lift (Rule.segments text)) ∧
    (∀ term, Rule.Scan.splitSanitizer term = .ok (Rule.splitSanitizer term)) ∧
    (∀ body, Rule.Scan.splitAttribute body = .ok (Rule.splitAttribute body)) ∧
    (∀ body, Rule.Scan.hasBareCombinator body = .ok (Rule.hasBareCombinator body)) ∧
    (∀ text, Rule.Scan.parse text = lift (Rule.parse text)) ∧
    (∀ index : Int64, (unsignedAbs index).toNat = index.toInt.natAbs) ∧
    (∀ (size place : USize) (index : Int64), resolveWord? size index = some place ↔
      (place.toNat : Int) = if index < 0 then size.toNat + index.toInt else index.toInt) ∧
    (∀ items, items.length < USize.size → ∀ index, elementAt? items index =
      (resolveIndex? items.length index.toInt).bind (items[·]?)) ∧
    (∀ root, Addressable root → ∀ text,
      evaluateWords root text = jsonPathBackend.evaluate root text) :=
  ⟨Rule.Scan.splitGroups_eq, Rule.Scan.splitSanitizer_eq, Rule.Scan.splitAttribute_eq,
    Rule.Scan.hasBareCombinator_eq, Rule.Scan.parse_eq, toNat_unsignedAbs,
    fun _ _ _ => resolveWord?_eq_some_iff, fun _ size index => elementAt?_eq size index,
    fun _ addressable text => evaluateWords_eq addressable text⟩

/-- The least index stands for no element of a short array. -/
theorem evaluateWords_least_index :
    [Json.null].length < USize.size ∧ elementAt? [.null] Int64.minValue = none ∧
      Addressable (.array [.null]) ∧
        evaluateWords (.array [.null]) "$[-9223372036854775808]" = .ok [] := by
  have size : [Json.null].length < USize.size := by
    rcases USize.size_eq with same | same <;> rw [same] <;> decide
  have addressable : Addressable (.array [.null]) :=
    .array size (by simpa using Addressable.leaf rfl)
  obtain ⟨-, -, -, -, -, -, -, element, path⟩ := reads_in_bounds
  refine ⟨size, ?_, addressable, ?_⟩
  · rw [element _ size]
    rfl
  · rw [path _ addressable]
    rfl

end Gleaner
