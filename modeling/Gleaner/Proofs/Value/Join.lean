import Gleaner.Value.Concat

/-!
# Joining primitives

Joined primitives are their texts one after the other, where nothing counts as the empty text.
Only where there is nothing but nothing is the result nothing too.
-/

namespace Gleaner.Primitive

theorem isNull_iff (item : Primitive) : item.isNull = true ↔ item = .null := by
  cases item <;> simp [isNull]

theorem isNull_of_ne {item : Primitive} (present : item ≠ .null) : item.isNull = false := by
  rw [← Bool.not_eq_true, isNull_iff]
  exact present

@[simp] theorem toText?_null : null.toText? = none := rfl

@[simp] theorem toText?_string (text : String) : (string text).toText? = some text := rfl

theorem toText?_eq_none_iff (item : Primitive) : item.toText? = none ↔ item = .null := by
  cases item with
  | bool value => cases value <;> simp [toText?]
  | _ => simp [toText?]

/-- All the primitives joined: the texts that there are, one after the other. -/
def joinAll (items : List Primitive) : Primitive :=
  match items.filterMap toText? with
  | [] => .null
  | texts => .string (String.join texts)

@[simp] theorem joinAll_nil : joinAll [] = .null := rfl

theorem joinAll_eq_null_iff {items : List Primitive} :
    joinAll items = .null ↔ ∀ item ∈ items, item = .null := by
  simp only [← toText?_eq_none_iff, ← List.filterMap_eq_nil_iff, joinAll]
  cases items.filterMap toText? <;> simp

private theorem join_congr {left right before behind : Primitive}
    (lefts : left.toText? = before.toText?) (rights : right.toText? = behind.toText?) :
    left.join right = before.join behind := by
  rw [join, join, lefts, rights]

private theorem toText?_joinAll_singleton (item : Primitive) :
    (joinAll [item]).toText? = item.toText? := by
  rw [joinAll, List.filterMap_cons]
  cases item.toText? <;> simp [String.join_cons]

/-- The join of one operand more. -/
theorem joinAll_concat (items : List Primitive) (item : Primitive) :
    joinAll (items ++ [item]) = (joinAll items).join item := by
  rw [joinAll, joinAll, List.filterMap_append, List.filterMap_cons]
  cases text : item.toText? <;> cases items.filterMap toText? <;>
    simp [join, text, String.join_cons, String.join_append, String.append_assoc]

/-- What is joined onto nothing keeps its text. -/
theorem null_join_join (left right : Primitive) :
    (null.join left).join right = left.join right := by
  have onto : null.join left = joinAll [left] := (joinAll_concat [] left).symm
  exact join_congr (onto ▸ toText?_joinAll_singleton left) rfl

/-- Nothing more is joined where there may be one operand more. -/
theorem joinAll_append_toList (items : List Primitive) (item? : Option Primitive) :
    joinAll (items ++ item?.toList) = (joinAll items).join (item?.getD .null) := by
  cases item? with
  | none =>
      rw [Option.getD_none, ← joinAll_concat]
      simp [joinAll, List.filterMap_cons]
  | some item => exact joinAll_concat items item

end Gleaner.Primitive
