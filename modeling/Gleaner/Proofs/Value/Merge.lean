import Gleaner.Proofs.Value.Join
import Mathlib.Data.List.Basic
import Mathlib.Data.List.Induction

/-!
# Merging values

Values are merged by joining them one after the other.  What comes out has a closed form: it is a
sequence if one of the operands is, and each of its elements joins what the operands have at its
index.  A scalar is there at every index, except that the elements that a sequence is filled up with
are not joined with the scalars before.
-/

namespace Gleaner

/-- The length of a sequence. -/
def Value.length? : Value → Option Nat
  | scalar _ => none
  | sequence items => some items.length

/-- What the value has at an index; a scalar is the same everywhere. -/
def Value.item? (index : Nat) : Value → Option Primitive
  | scalar item => some item
  | sequence items => items[index]?

namespace Operands

/-- The lengths of the sequences among the operands. -/
def lengths (operands : List Value) : List Nat :=
  operands.filterMap Value.length?

/-- The greatest of the lengths. -/
def longest (lengths : List Nat) : Nat :=
  lengths.foldl max 0

/-- What the operands have at an index. -/
def itemsAt (operands : List Value) (index : Nat) : List Primitive :=
  operands.filterMap (Value.item? index)

/-- With how many elements the operand at a place is joined if it is a scalar: as many as the
sequences before it have come to, or as many as the first sequence has if it stands before all. -/
def reach (operands : List Value) (place : Nat) : Nat :=
  match lengths (operands.take place) with
  | [] => (lengths operands).headD 0
  | before => longest before

/-- What the operands have at an index where shorter sequences are filled up: a scalar is there only
as far as it reaches. -/
def reachingAt (operands : List Value) (index : Nat) : List Primitive :=
  operands.zipIdx.filterMap fun (operand, place) =>
    match operand with
    | .scalar item => if index < reach operands place then some item else none
    | .sequence items => items[index]?

/-- The sequence of so many elements, each of which joins the parts at its index. -/
def elements (parts : Nat → List Primitive) (length : Nat) : Value :=
  .sequence ((List.range length).map fun index => .joinAll (parts index))

/-- The join of the operands. -/
def joined (policy : ZipPolicy) (operands : List Value) : Except LengthMismatch Value :=
  match lengths operands with
  | [] => .ok (.scalar (.joinAll (itemsAt operands 0)))
  | first :: others =>
      match policy with
      | .truncate => .ok (elements (itemsAt operands) (others.foldl min first))
      | .pad => .ok (elements (reachingAt operands) (longest (first :: others)))
      | .error =>
          match others.find? (· ≠ first) with
          | none => .ok (elements (itemsAt operands) first)
          | some other => .error { left := first, right := other }

/-- What the operands are merged to: one alone stays what it is. -/
def merged (policy : ZipPolicy) : List Value → Except LengthMismatch Value
  | [only] => .ok only
  | operands => joined policy operands

end Operands

/-! ## Two sequences -/

theorem joinSequences_truncate (left right : List Primitive) :
    joinSequences .truncate left right = .ok (joinItems left right) := by
  rw [joinSequences]
  split <;> rfl

theorem joinSequences_pad (left right : List Primitive) :
    joinSequences .pad left right =
      .ok (joinItems (padTo (max left.length right.length) left)
        (padTo (max left.length right.length) right)) := by
  rw [joinSequences]
  split
  · next same => simp [padTo, same]
  · rfl

private theorem getElem?_padTo {items : List Primitive} {length index : Nat}
    (inside : index < length) : (padTo length items)[index]? = some (items[index]?.getD .null) := by
  rw [padTo, List.getElem?_append]
  split
  · next present => simp [present]
  · next absent =>
      have filled : index - items.length < length - items.length := by omega
      simp [List.getElem?_eq_none (Nat.le_of_not_lt absent), filled]

private theorem padTo_map_null_join (length : Nat) (items : List Primitive) :
    padTo length (items.map Primitive.null.join) =
      (padTo length items).map Primitive.null.join := by
  simp [padTo, Primitive.join]

private theorem joinItems_null_join (left right : List Primitive) :
    joinItems (left.map Primitive.null.join) right = joinItems left right := by
  rw [joinItems, joinItems, List.zipWith_map_left]
  congr 1
  funext left right
  exact Primitive.null_join_join left right

private theorem joinSequences_null_join (policy : ZipPolicy) (left right : List Primitive) :
    joinSequences policy (left.map Primitive.null.join) right =
      joinSequences policy left right := by
  cases policy <;>
    simp only [joinSequences, List.length_map, padTo_map_null_join, joinItems_null_join]

private theorem Value.null_concat (policy : ZipPolicy) (value : Value) :
    Value.null.concat policy value = .ok (value.map Primitive.null.join) := by
  cases value <;> rfl

private theorem Value.map_null_join_concat (policy : ZipPolicy) (left right : Value) :
    (left.map Primitive.null.join).concat policy right = left.concat policy right := by
  cases left with
  | scalar left => cases right <;> simp [map, concat, Primitive.null_join_join]
  | sequence left =>
      cases right with
      | scalar right => simp [map, concat, Primitive.null_join_join]
      | sequence right => simp only [map, concat, joinSequences_null_join]

namespace Operands

/-! ## Lengths -/

theorem lengths_append (front behind : List Value) :
    lengths (front ++ behind) = lengths front ++ lengths behind :=
  List.filterMap_append

private theorem lengths_concat_scalar (operands : List Value) (item : Primitive) :
    lengths (operands ++ [.scalar item]) = lengths operands := by
  simp [lengths, Value.length?]

private theorem lengths_concat_sequence (operands : List Value) (items : List Primitive) :
    lengths (operands ++ [.sequence items]) = lengths operands ++ [items.length] := by
  simp [lengths, Value.length?]

theorem lengths_eq_nil_iff {operands : List Value} :
    lengths operands = [] ↔ ∀ items, .sequence items ∉ operands := by
  rw [lengths, List.filterMap_eq_nil_iff]
  constructor
  · intro scalars items member
    exact nomatch scalars _ member
  · intro scalars operand member
    cases operand with
    | scalar item => rfl
    | sequence items => exact absurd member (scalars items)

private theorem length_mem_lengths {operands : List Value} {items : List Primitive}
    (member : .sequence items ∈ operands) : items.length ∈ lengths operands :=
  List.mem_filterMap.mpr ⟨_, member, rfl⟩

private theorem longest_concat (lengths : List Nat) (length : Nat) :
    longest (lengths ++ [length]) = max (longest lengths) length := by
  simp [longest]

theorem longest_append (front behind : List Nat) :
    longest (front ++ behind) = max (longest front) (longest behind) := by
  induction behind using List.reverseRecOn with
  | nil => simp [longest]
  | append_singleton behind length ih =>
      rw [← List.append_assoc, longest_concat, ih, longest_concat, Nat.max_assoc]

theorem le_longest {lengths : List Nat} {length : Nat} (member : length ∈ lengths) :
    length ≤ longest lengths := by
  obtain ⟨front, behind, rfl⟩ := List.append_of_mem member
  rw [List.append_cons, longest_append, longest_concat]
  omega

/-! ## How far scalars reach -/

private theorem reach_concat {operands : List Value} (operand : Value) {place : Nat}
    (inside : place < operands.length) (sequences : lengths operands ≠ []) :
    reach (operands ++ [operand]) place = reach operands place := by
  have first : (lengths (operands ++ [operand])).headD 0 = (lengths operands).headD 0 := by
    rw [lengths_append]
    cases found : lengths operands with
    | nil => exact absurd found sequences
    | cons first others => rfl
  rw [reach, reach, List.take_append_of_le_length (by omega), first]

private theorem reach_last {operands : List Value} (operand : Value)
    (sequences : lengths operands ≠ []) :
    reach (operands ++ [operand]) operands.length = longest (lengths operands) := by
  rw [reach, List.take_left]
  split
  · next none => exact absurd none sequences
  · rfl

private theorem reach_of_scalars {operands : List Value} (scalars : lengths operands = [])
    (items : List Primitive) {place : Nat} (inside : place ≤ operands.length) :
    reach (operands ++ [.sequence items]) place = items.length := by
  have before : lengths (operands.take place) = [] := by
    rw [lengths_eq_nil_iff] at scalars ⊢
    exact fun items member => scalars items (List.mem_of_mem_take member)
  rw [reach, List.take_append_of_le_length inside, before, lengths_concat_sequence, scalars]
  rfl

private theorem reach_le_longest (operands : List Value) (place : Nat) :
    reach operands place ≤ longest (lengths operands) := by
  rw [reach]
  split
  · cases found : lengths operands with
    | nil => simp
    | cons first others => exact le_longest List.mem_cons_self
  · next before found =>
      have split : lengths operands =
          lengths (operands.take place) ++ lengths (operands.drop place) := by
        rw [← lengths_append, List.take_append_drop]
      rw [split, longest_append]
      omega

/-! ## What the operands have at an index -/

private theorem itemsAt_concat (operands : List Value) (operand : Value) (index : Nat) :
    itemsAt (operands ++ [operand]) index =
      itemsAt operands index ++ (operand.item? index).toList := by
  rw [itemsAt, List.filterMap_append]
  cases found : operand.item? index <;> simp [itemsAt, found]

private theorem itemsAt_concat_sequence (operands : List Value) {items : List Primitive}
    {index : Nat} (inside : index < items.length) :
    itemsAt (operands ++ [.sequence items]) index = itemsAt operands index ++ [items[index]] := by
  rw [itemsAt_concat]
  simp [Value.item?, inside]

private theorem itemsAt_eq_of_scalars {operands : List Value} (scalars : lengths operands = [])
    (index : Nat) : itemsAt operands index = itemsAt operands 0 := by
  refine List.filterMap_congr fun operand member => ?_
  cases operand with
  | scalar item => rfl
  | sequence items => exact absurd member (lengths_eq_nil_iff.mp scalars items)

private theorem reachingAt_eq_nil {operands : List Value} {index : Nat}
    (outside : longest (lengths operands) ≤ index) : reachingAt operands index = [] := by
  rw [reachingAt, List.filterMap_eq_nil_iff]
  rintro ⟨operand, place⟩ member
  cases operand with
  | scalar item =>
      have reached := reach_le_longest operands place
      exact if_neg (by omega)
  | sequence items =>
      have bounded := le_longest (length_mem_lengths (List.fst_mem_of_mem_zipIdx member))
      exact List.getElem?_eq_none (by omega)

private theorem reachingAt_concat {operands : List Value} (operand : Value) (index : Nat)
    (sequences : lengths operands ≠ []) :
    reachingAt (operands ++ [operand]) index =
      reachingAt operands index ++
        match operand with
        | .scalar item => if index < longest (lengths operands) then [item] else []
        | .sequence items => items[index]?.toList := by
  rw [reachingAt, List.zipIdx_append, List.filterMap_append]
  congr 1
  · -- the places before keep their reach, since there is a first sequence already
    refine List.filterMap_congr fun ⟨other, place⟩ member => ?_
    have inside : place < operands.length := by
      have bounds := List.mem_zipIdx member
      omega
    cases other with
    | scalar item => simp only [reach_concat operand inside sequences]
    | sequence items => rfl
  · cases operand with
    | scalar item =>
        simp only [List.zipIdx_cons, List.zipIdx_nil, Nat.zero_add, List.filterMap_cons,
          List.filterMap_nil, reach_last _ sequences]
        split <;> simp_all
    | sequence items => cases found : items[index]? <;> simp [found]

private theorem reachingAt_eq_itemsAt {operands : List Value} {index : Nat}
    (reached : ∀ place < operands.length, index < reach operands place) :
    reachingAt operands index = itemsAt operands index := by
  have everywhere : itemsAt operands index =
      operands.zipIdx.filterMap (Value.item? index ∘ Prod.fst) := by
    rw [← List.filterMap_map, List.zipIdx_map_fst, itemsAt]
  rw [everywhere]
  refine List.filterMap_congr fun ⟨operand, place⟩ member => ?_
  cases operand with
  | scalar item =>
      have bounds := List.mem_zipIdx member
      exact if_pos (reached place (by omega))
  | sequence items => rfl

/-! ## Sequences of joined parts -/

section

variable {before after : Nat → List Primitive} {length : Nat} {items : List Primitive}

private theorem elements_congr (same : ∀ index < length, before index = after index) :
    elements before length = elements after length := by
  simp only [elements, Value.sequence.injEq]
  exact List.map_congr_left fun index member => by rw [same index (List.mem_range.mp member)]

private theorem elements_concat_scalar (policy : ZipPolicy) {item : Primitive}
    (more : ∀ index < length, after index = before index ++ [item]) :
    (elements before length).concat policy (.scalar item) = .ok (elements after length) := by
  simp only [elements, Value.concat, List.map_map, Except.ok.injEq, Value.sequence.injEq]
  refine List.map_congr_left fun index member => ?_
  rw [Function.comp, more index (List.mem_range.mp member), Primitive.joinAll_concat]

private theorem scalar_concat_sequence (policy : ZipPolicy) {parts : List Primitive}
    (more : ∀ index (inside : index < items.length), after index = parts ++ [items[index]]) :
    (Value.scalar (.joinAll parts)).concat policy (.sequence items) =
      .ok (elements after items.length) := by
  simp only [Value.concat, elements, Except.ok.injEq, Value.sequence.injEq]
  refine List.ext_getElem (by simp) fun index inside _ => ?_
  rw [List.length_map] at inside
  simp [more index inside, Primitive.joinAll_concat]

private theorem elements_concat_sequence (policy : ZipPolicy) :
    (elements before length).concat policy (.sequence items) =
      (joinSequences policy ((List.range length).map fun index => .joinAll (before index))
        items).map .sequence := rfl

private theorem joinItems_elements (length : Nat)
    (more : ∀ index (inside : index < items.length), after index = before index ++ [items[index]]) :
    .sequence (joinItems ((List.range length).map fun index => .joinAll (before index)) items) =
      elements after (min length items.length) := by
  simp only [elements, Value.sequence.injEq]
  refine List.ext_getElem (by simp [joinItems]) fun index inside _ => ?_
  simp only [joinItems, List.length_zipWith, List.length_map, List.length_range] at inside
  simp [joinItems, more index (by omega), Primitive.joinAll_concat]

private theorem elements_concat_truncate
    (more : ∀ index (inside : index < items.length), after index = before index ++ [items[index]]) :
    (elements before length).concat .truncate (.sequence items) =
      .ok (elements after (min length items.length)) := by
  rw [elements_concat_sequence, joinSequences_truncate, ← joinItems_elements length more]
  rfl

private theorem elements_concat_error_of_even (even : items.length = length)
    (more : ∀ index (inside : index < items.length), after index = before index ++ [items[index]]) :
    (elements before length).concat .error (.sequence items) = .ok (elements after length) := by
  have joins := joinItems_elements length more
  rw [even, Nat.min_self] at joins
  rw [elements_concat_sequence, joinSequences, if_pos (by simp [even]), ← joins]
  rfl

private theorem elements_concat_error_of_uneven (uneven : items.length ≠ length) :
    (elements before length).concat .error (.sequence items) =
      .error { left := length, right := items.length } := by
  rw [elements_concat_sequence, joinSequences, if_neg (by simpa using uneven.symm)]
  simp [Except.map]

private theorem elements_concat_pad (nothing : ∀ index, length ≤ index → before index = [])
    (more : ∀ index, after index = before index ++ items[index]?.toList) :
    (elements before length).concat .pad (.sequence items) =
      .ok (elements after (max length items.length)) := by
  rw [elements_concat_sequence, joinSequences_pad]
  simp only [Except.map, elements, Except.ok.injEq, Value.sequence.injEq, List.length_map,
    List.length_range]
  refine List.ext_getElem? fun index => ?_
  by_cases inside : index < max length items.length
  · -- what the left sequence is filled up with is the join of no parts
    have left : ((List.range length).map fun index => Primitive.joinAll (before index))[index]?.getD
        .null = .joinAll (before index) := by
      by_cases short : index < length
      · simp [short]
      · simp [short, nothing index (by omega)]
    rw [joinItems, List.getElem?_zipWith, getElem?_padTo inside, getElem?_padTo inside, left]
    simp [inside, more, Primitive.joinAll_append_toList]
  · rw [List.getElem?_eq_none, List.getElem?_eq_none] <;> simp [joinItems, padTo] <;> omega

end

/-! ## One operand more -/

section

variable {policy : ZipPolicy} {operands : List Value} {first : Nat} {others : List Nat}

theorem joined_of_scalars (scalars : lengths operands = []) :
    joined policy operands = .ok (.scalar (.joinAll (itemsAt operands 0))) := by
  rw [joined, scalars]

theorem joined_truncate (found : lengths operands = first :: others) :
    joined .truncate operands = .ok (elements (itemsAt operands) (others.foldl min first)) := by
  rw [joined, found]

theorem joined_pad (found : lengths operands = first :: others) :
    joined .pad operands = .ok (elements (reachingAt operands) (longest (first :: others))) := by
  rw [joined, found]

theorem joined_error_of_even (found : lengths operands = first :: others)
    (even : others.find? (· ≠ first) = none) :
    joined .error operands = .ok (elements (itemsAt operands) first) := by
  rw [joined, found]
  simp only [even]

theorem joined_error_of_uneven (found : lengths operands = first :: others) {other : Nat}
    (uneven : others.find? (· ≠ first) = some other) :
    joined .error operands = .error { left := first, right := other } := by
  rw [joined, found]
  simp only [uneven]

private theorem joined_concat_scalar (policy : ZipPolicy) (operands : List Value)
    (item : Primitive) :
    joined policy (operands ++ [.scalar item]) =
      (joined policy operands).bind fun value => value.concat policy (.scalar item) := by
  have more (index : Nat) :
      itemsAt (operands ++ [.scalar item]) index = itemsAt operands index ++ [item] :=
    itemsAt_concat operands (.scalar item) index
  have same := lengths_concat_scalar operands item
  cases found : lengths operands with
  | nil =>
      rw [joined_of_scalars (same.trans found), joined_of_scalars found, more,
        Primitive.joinAll_concat]
      rfl
  | cons first others =>
      rw [found] at same
      cases policy with
      | truncate =>
          rw [joined_truncate same, joined_truncate found]
          exact (elements_concat_scalar .truncate fun index _ => more index).symm
      | pad =>
          rw [joined_pad same, joined_pad found]
          refine (elements_concat_scalar .pad fun index inside => ?_).symm
          simp [reachingAt_concat _ index (found ▸ List.cons_ne_nil first others), found, inside]
      | error =>
          cases even : others.find? (· ≠ first) with
          | none =>
              rw [joined_error_of_even same even, joined_error_of_even found even]
              exact (elements_concat_scalar .error fun index _ => more index).symm
          | some other =>
              rw [joined_error_of_uneven same even, joined_error_of_uneven found even]
              rfl

private theorem joined_concat_of_scalars (policy : ZipPolicy) (scalars : lengths operands = [])
    (items : List Primitive) :
    joined policy (operands ++ [.sequence items]) =
      (joined policy operands).bind fun value => value.concat policy (.sequence items) := by
  have found : lengths (operands ++ [.sequence items]) = [items.length] := by
    rw [lengths_concat_sequence, scalars, List.nil_append]
  have more (index : Nat) (inside : index < items.length) :
      itemsAt (operands ++ [.sequence items]) index = itemsAt operands 0 ++ [items[index]] := by
    rw [itemsAt_concat_sequence operands inside, itemsAt_eq_of_scalars scalars]
  rw [joined_of_scalars scalars, Except.bind, scalar_concat_sequence policy more]
  cases policy with
  | truncate => exact joined_truncate found
  | pad =>
      have whole : longest [items.length] = items.length := Nat.zero_max items.length
      rw [joined_pad found, whole]
      refine congrArg Except.ok (elements_congr fun index inside => ?_)
      refine reachingAt_eq_itemsAt fun place within => ?_
      rw [List.length_append, List.length_singleton] at within
      rw [reach_of_scalars scalars items (by omega)]
      exact inside
  | error => exact joined_error_of_even found rfl

private theorem joined_concat_sequence (policy : ZipPolicy) (operands : List Value)
    (items : List Primitive) :
    joined policy (operands ++ [.sequence items]) =
      (joined policy operands).bind fun value => value.concat policy (.sequence items) := by
  have more (index : Nat) (inside : index < items.length) :=
    itemsAt_concat_sequence operands inside
  cases found : lengths operands with
  | nil => exact joined_concat_of_scalars policy found items
  | cons first others =>
      have same : lengths (operands ++ [.sequence items]) =
          first :: (others ++ [items.length]) := by
        rw [lengths_concat_sequence, found, List.cons_append]
      cases policy with
      | truncate =>
          rw [joined_truncate same, joined_truncate found, Except.bind,
            elements_concat_truncate more, List.foldl_append]
          rfl
      | pad =>
          have sequences : lengths operands ≠ [] := by simp [found]
          rw [joined_pad same, joined_pad found, Except.bind, ← List.cons_append, longest_concat,
            elements_concat_pad (fun index outside => reachingAt_eq_nil (found ▸ outside))
              fun index => reachingAt_concat (.sequence items) index sequences]
      | error =>
          cases even : others.find? (· ≠ first) with
          | some other =>
              have uneven : (others ++ [items.length]).find? (· ≠ first) = some other := by
                rw [List.find?_append, even, Option.some_or]
              rw [joined_error_of_uneven same uneven, joined_error_of_uneven found even]
              rfl
          | none =>
              rw [joined_error_of_even found even, Except.bind]
              by_cases last : items.length = first
              · have still : (others ++ [items.length]).find? (· ≠ first) = none := by
                  rw [List.find?_append, even]
                  simp [last]
                rw [joined_error_of_even same still, elements_concat_error_of_even last more]
              · have uneven : (others ++ [items.length]).find? (· ≠ first) =
                    some items.length := by
                  rw [List.find?_append, even]
                  simp [last]
                rw [joined_error_of_uneven same uneven, elements_concat_error_of_uneven last]

end

/-! ## All operands -/

theorem joined_concat (policy : ZipPolicy) (operands : List Value) (operand : Value) :
    joined policy (operands ++ [operand]) =
      (joined policy operands).bind fun value => value.concat policy operand := by
  cases operand with
  | scalar item => exact joined_concat_scalar policy operands item
  | sequence items => exact joined_concat_sequence policy operands items

/-- The join of operands is what comes of joining them one after the other onto nothing. -/
theorem joined_eq_foldlM (policy : ZipPolicy) (operands : List Value) :
    joined policy operands = operands.foldlM (Value.concat policy) .null := by
  induction operands using List.reverseRecOn with
  | nil => rfl
  | append_singleton operands operand ih =>
      simp only [List.foldlM_append, List.foldlM_cons, List.foldlM_nil, bind_pure, ← ih,
        joined_concat]
      rfl

/-- Merging is joining the other operands one after the other onto the first. -/
theorem merged_cons (policy : ZipPolicy) (operand : Value) (operands : List Value) :
    merged policy (operand :: operands) = operands.foldlM (Value.concat policy) operand := by
  cases operands with
  | nil => rfl
  | cons next operands =>
      -- with a second operand it is the same whether or not the first was joined onto nothing
      have onto : joined policy (operand :: next :: operands) =
          (next :: operands).foldlM (Value.concat policy) (operand.map Primitive.null.join) := by
        rw [joined_eq_foldlM, List.foldlM_cons, Value.null_concat]
        rfl
      rw [merged, onto, List.foldlM_cons, Value.map_null_join_concat, List.foldlM_cons]
      simp

end Operands

end Gleaner
