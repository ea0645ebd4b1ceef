import Gleaner.Proofs.Rule.Escape
import Gleaner.Proofs.Text.Slice
import Mathlib.Order.Bounds.Basic

/-!
# Open separators

Two number signs separate a selector from its narrowing pattern unless a backslash stands right in
front of them.  A term is cut at the last place where they do.
-/

namespace Gleaner.Rule

open Text

/-- Two number signs start behind so many bytes, with no backslash right in front of them. -/
def OpenAt (term : List Char) (offset : Nat) : Prop :=
  ∃ before after, term = before ++ '#' :: '#' :: after ∧ byteLength before = offset ∧
    before.getLast? ≠ some '\\'

/-- What comes of cutting a term at the last one of the places. -/
inductive CutAt (term : List Char) (places : Set Nat) : List Char × Option (List Char) → Prop
  /-- Two number signs are taken out at that place. -/
  | last {before after : List Char} (split : term = before ++ '#' :: '#' :: after)
      (greatest : IsGreatest places (byteLength before)) : CutAt term places (before, some after)
  /-- There is no place. -/
  | uncut (empty : places = ∅) : CutAt term places (term, none)

theorem CutAt.unique {term : List Char} {places : Set Nat}
    {one other : List Char × Option (List Char)} (left : CutAt term places one)
    (right : CutAt term places other) : one = other := by
  cases left with
  | uncut empty =>
      cases right with
      | uncut => rfl
      | last split greatest => simp [empty, IsGreatest] at greatest
  | last split greatest =>
      cases right with
      | uncut empty => simp [empty, IsGreatest] at greatest
      | last again same =>
          obtain ⟨rfl, signs⟩ :=
            append_inj_of_byteLength (split.symm.trans again) (greatest.unique same)
          obtain rfl := (List.cons.inj (List.cons.inj signs).2).2
          rfl

variable {term before after : List Char}

private theorem not_openAt_of_cutLast (closed : cutLast false term = none) (offset : Nat) :
    ¬OpenAt term offset := by
  rintro ⟨before, after, split, -, bare⟩
  have guarded := (cutLast_eq_none_iff false term).mp closed before after split
  rw [(endsEscaped_false_iff before).mpr bare] at guarded
  contradiction

/-- Behind the place of the cut no separator is open, not even one that overlaps with the one
there. -/
theorem isGreatest_of_cutLast (found : cutLast false term = some (before, after)) :
    IsGreatest {offset | OpenAt term offset} (byteLength before) := by
  obtain ⟨split, bare, closed, stops⟩ := cutLast_eq_some found
  refine ⟨⟨before, after, split, rfl, (endsEscaped_false_iff before).mp bare⟩, ?_⟩
  rintro offset ⟨left, right, same, rfl, last⟩
  by_contra further
  obtain ⟨middle, rfl⟩ : before <+: left :=
    prefix_of_byteLength_le ⟨_, split.symm⟩ ⟨_, same.symm⟩ (Nat.le_of_not_le further)
  rw [split, List.append_assoc, List.append_cancel_left_eq] at same
  match middle with
  | [] => simp at further
  | [sign] =>
      obtain ⟨-, rfl⟩ : '#' = sign ∧ after = '#' :: right := by simpa using same
      exact stops rfl
  | first :: second :: middle =>
      obtain ⟨-, -, rfl⟩ : '#' = first ∧ '#' = second ∧ after = middle ++ '#' :: '#' :: right := by
        simpa using same
      refine not_openAt_of_cutLast closed _ ⟨middle, right, rfl, rfl, fun ending => last ?_⟩
      simp [List.getLast?_append, List.getLast?_cons, ending]

theorem cutAt_splitSanitizer (term : List Char) :
    CutAt term {offset | OpenAt term offset} (splitSanitizer term) := by
  unfold splitSanitizer
  split
  · next before after found => exact .last (cutLast_eq_some found).1 (isGreatest_of_cutLast found)
  · next closed =>
      exact .uncut (Set.eq_empty_of_forall_notMem (not_openAt_of_cutLast closed))

end Gleaner.Rule
