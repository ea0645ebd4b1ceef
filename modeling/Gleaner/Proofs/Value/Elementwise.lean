import Gleaner.Proofs.Value.Join
import Gleaner.Proofs.Value.Narrowing

/-!
# Narrowing element by element

Narrowing keeps the shape of a value.  Each primitive comes to hold a part of its text, or nothing,
and it makes no difference whether nulls are dropped before a value is narrowed or only after.
-/

namespace Gleaner

/-- A primitive comes out of being narrowed by a pattern as its text does: nothing if it has no text
or the pattern matches nowhere in it, and else a part of the text. -/
def Primitive.NarrowsTo (pattern : Pattern) (item after : Primitive) : Prop :=
  Narrows pattern (.ofOption item.toText?) after

theorem Primitive.narrowsTo_sanitize (pattern : Pattern) (item : Primitive) :
    item.NarrowsTo pattern (item.sanitize pattern) := by
  rw [sanitize_eq]
  exact narrows_ofOption pattern item.toText?

namespace Value

/-- The values have the same shape, and their primitives are related place by place. -/
inductive Elementwise (relation : Primitive → Primitive → Prop) : Value → Value → Prop
  | scalar {left right : Primitive} (related : relation left right) :
      Elementwise relation (.scalar left) (.scalar right)
  | sequence {lefts rights : List Primitive} (related : List.Forall₂ relation lefts rights) :
      Elementwise relation (.sequence lefts) (.sequence rights)

section

variable {relation : Primitive → Primitive → Prop} {f : Primitive → Primitive}

theorem elementwise_map (related : ∀ item, relation item (f item)) (value : Value) :
    value.Elementwise relation (value.map f) := by
  cases value with
  | scalar item => exact .scalar (related item)
  | sequence items =>
      refine .sequence ?_
      rw [List.forall₂_map_right_iff, List.forall₂_same]
      exact fun item _ => related item

private theorem filter_map_filter (nulls : f .null = .null) (items : List Primitive) :
    ((items.filter (! ·.isNull)).map f).filter (! ·.isNull) =
      (items.map f).filter (! ·.isNull) := by
  induction items with
  | nil => rfl
  | cons item items ih =>
      rw [List.filter_cons]
      split
      · rw [List.map_cons, List.map_cons, List.filter_cons, List.filter_cons, ih]
      · next null =>
          obtain rfl : item = .null := (Primitive.isNull_iff item).mp (by simpa using null)
          rw [ih, List.map_cons, nulls]
          rfl

/-- Where nulls stay nulls, it makes no difference to drop them first. -/
theorem success?_map (nulls : f .null = .null) (value : Value) :
    (value.map f).success? = value.success?.bind fun kept => (kept.map f).success? := by
  cases value with
  | scalar item =>
      cases null : item.isNull with
      | false => simp [success?, null]
      | true =>
          obtain rfl := (Primitive.isNull_iff item).mp null
          simp [success?, map, nulls, Primitive.isNull]
  | sequence items =>
      have same := filter_map_filter nulls items
      simp only [success?, map]
      cases kept : items.filter (! ·.isNull) with
      | nil =>
          rw [kept] at same
          simp [← same]
      | cons item others =>
          rw [kept] at same
          simp [← same]

end

/-- Narrowing keeps the shape of a value; each of its primitives comes to hold a part of its text
where the pattern matches, and nothing elsewhere.  Dropping the nulls of a value before it is
narrowed leaves the same in the end as dropping them only after. -/
theorem sanitize_elementwise (pattern : Pattern) (value : Value) :
    value.Elementwise (Primitive.NarrowsTo pattern) (value.sanitize pattern) ∧
      (∀ index : Nat, value.items[index]? = some .null →
        (value.sanitize pattern).items[index]? = some .null) ∧
      (value.sanitize pattern).success? =
        value.success?.bind fun kept => (kept.sanitize pattern).success? := by
  refine ⟨elementwise_map (Primitive.narrowsTo_sanitize pattern) value, fun index there => ?_,
    success?_map rfl value⟩
  rw [items_sanitize, List.getElem?_map, there]
  rfl

/-- A group that takes part in the match, one that does not, and items that the pattern drops. -/
theorem sanitize_elementwise_of_optional_group :
    ∃ pattern, Pattern.ofSource "(x)?[0-9]+" = .ok pattern ∧
      let value := sequence [.null, .string "a42", .bool true, .number (.integer 7), .string "x42"]
      let narrowed := sequence [.null, .string "42", .null, .string "7", .string "x"]
      value.sanitize pattern = narrowed ∧
        value.Elementwise (Primitive.NarrowsTo pattern) narrowed ∧
        value.items[0]? = some .null ∧ narrowed.items[0]? = some .null ∧
        narrowed.success? = value.success?.bind fun kept => (kept.sanitize pattern).success? := by
  have evaluated : ((Pattern.ofSource "(x)?[0-9]+").toOption.any fun pattern => decide (
      (sequence [.null, .string "a42", .bool true, .number (.integer 7), .string "x42"]).sanitize
          pattern =
        sequence [.null, .string "42", .null, .string "7", .string "x"])) = true := by
    decide +kernel
  cases compiled : Pattern.ofSource "(x)?[0-9]+" with
  | error cause => simp [compiled, Except.toOption] at evaluated
  | ok pattern =>
      rw [compiled] at evaluated
      have narrowed := of_decide_eq_true evaluated
      obtain ⟨related, nulls, dropped⟩ := sanitize_elementwise pattern
        (sequence [.null, .string "a42", .bool true, .number (.integer 7), .string "x42"])
      have absent := nulls 0 rfl
      rw [narrowed] at related absent dropped
      exact ⟨pattern, rfl, narrowed, related, rfl, absent, dropped⟩

end Value

end Gleaner
