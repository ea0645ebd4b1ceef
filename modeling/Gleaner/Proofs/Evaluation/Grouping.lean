import Gleaner.Proofs.Evaluation.Operands
import Gleaner.Proofs.Evaluation.Policies

/-!
# Grouping operands

Unless sequences are filled up, it makes no difference which neighbours are joined first.  Under the
strict policy either way of grouping fails exactly when two of the sequences differ in length.
-/

namespace Gleaner

/-- Both results are the same value, or both are failures. -/
def SameValue {ε α : Type} (left right : Except ε α) : Prop :=
  (∃ value, left = .ok value ∧ right = .ok value) ∨
    ∃ cause other, left = .error cause ∧ right = .error other

theorem sameValue_iff {ε α : Type} {left right : Except ε α} :
    SameValue left right ↔ left.toOption = right.toOption := by
  cases left <;> cases right <;> simp [SameValue, Except.toOption, eq_comm]

private theorem toOption_bind {ε α β : Type} (result : Except ε α) (next : α → Except ε β) :
    (result.bind next).toOption = result.toOption.bind fun value => (next value).toOption := by
  cases result <;> rfl

/-! ## Primitives and lists of them -/

theorem Primitive.join_assoc (a b c : Primitive) : (a.join b).join c = a.join (b.join c) := by
  cases left : a.toText? <;> cases middle : b.toText? <;> cases right : c.toText? <;>
    simp [join, left, middle, right, String.append_assoc]

private theorem joinItems_assoc (a b c : List Primitive) :
    joinItems (joinItems a b) c = joinItems a (joinItems b c) := by
  induction a generalizing b c with
  | nil => rfl
  | cons item a ih =>
      cases b with
      | nil => rfl
      | cons next b =>
          cases c with
          | nil => rfl
          | cons last c => exact congrArg₂ List.cons (Primitive.join_assoc item next last) (ih b c)

private theorem joinItems_map_left (item : Primitive) (b c : List Primitive) :
    joinItems (b.map item.join) c = (joinItems b c).map item.join := by
  simp [joinItems, List.zipWith_map_left, List.map_zipWith, Primitive.join_assoc]

private theorem joinItems_map_between (a : List Primitive) (item : Primitive) (c : List Primitive) :
    joinItems (a.map (·.join item)) c = joinItems a (c.map item.join) := by
  simp [joinItems, List.zipWith_map_left, List.zipWith_map_right, Primitive.join_assoc]

private theorem joinItems_map_right (a b : List Primitive) (item : Primitive) :
    (joinItems a b).map (·.join item) = joinItems a (b.map (·.join item)) := by
  simp [joinItems, List.zipWith_map_right, List.map_zipWith, Primitive.join_assoc]

namespace Value

/-! ## Three operands -/

/-- The first two operands are joined first. -/
def leftFirst (policy : ZipPolicy) (a b c : Value) : Except LengthMismatch Value :=
  (a.concat policy b).bind fun joined => joined.concat policy c

/-- The last two operands are joined first. -/
def rightFirst (policy : ZipPolicy) (a b c : Value) : Except LengthMismatch Value :=
  (b.concat policy c).bind fun joined => a.concat policy joined

private theorem exists_concat_of_lenient {policy : ZipPolicy} (lenient : policy ≠ .error)
    (left right : Value) : ∃ joined, left.concat policy right = .ok joined := by
  cases joins : left.concat policy right with
  | ok joined => exact ⟨joined, rfl⟩
  | error lengths => exact absurd (concat_eq_error_iff.mp joins).1 lenient

private theorem exists_foldlM_concat_of_lenient {policy : ZipPolicy} (lenient : policy ≠ .error)
    (operands : List Value) (first : Value) :
    ∃ value, operands.foldlM (concat policy) first = .ok value := by
  induction operands generalizing first with
  | nil => exact ⟨first, rfl⟩
  | cons next operands ih =>
      obtain ⟨joined, joins⟩ := exists_concat_of_lenient lenient first next
      rw [List.foldlM_cons, joins]
      exact ih joined

private theorem leftFirst_truncate (a b c : Value) :
    leftFirst .truncate a b c = rightFirst .truncate a b c := by
  cases a <;> cases b <;> cases c <;>
    simp [leftFirst, rightFirst, concat, joinSequences_truncate, Except.bind, Except.map,
      Primitive.join_assoc, joinItems_assoc, joinItems_map_left, joinItems_map_between,
      joinItems_map_right]

/-- If both of the values are sequences, they are of one length. -/
def Even (left right : Value) : Prop :=
  ∀ length other, left.HasLength length → right.HasLength other → length = other

/-- Values are joined under the strict policy exactly when they are even. -/
theorem exists_concat_strict_iff {left right : Value} :
    (∃ joined, left.concat .error right = .ok joined) ↔ left.Even right := by
  constructor
  · rintro ⟨joined, joins⟩ _ _ ⟨before, rfl, rfl⟩ ⟨here, rfl, rfl⟩
    by_contra differ
    have fails : (sequence before).concat .error (sequence here) = .error _ :=
      concat_eq_error_iff.mpr ⟨rfl, before, here, rfl, rfl, differ, rfl⟩
    rw [fails] at joins
    contradiction
  · intro even
    cases joins : left.concat .error right with
    | ok joined => exact ⟨joined, rfl⟩
    | error lengths =>
        obtain ⟨-, before, here, rfl, rfl, differ, -⟩ := concat_eq_error_iff.mp joins
        exact absurd (even _ _ ⟨before, rfl, rfl⟩ ⟨here, rfl, rfl⟩) differ

private theorem even_joined_iff {left right joined : Value}
    (joins : left.concat .error right = .ok joined) (other : Value) :
    joined.Even other ↔ left.Even other ∧ right.Even other := by
  simp only [Even, hasLength_of_concat joins, or_imp, forall_and]

private theorem even_comm (left right : Value) : left.Even right ↔ right.Even left :=
  ⟨fun even _ _ here before => (even _ _ before here).symm,
    fun even _ _ before here => (even _ _ here before).symm⟩

/-- Under the strict policy three operands are joined, either way, exactly when each two of them are
even. -/
private theorem exists_leftFirst_strict_iff {a b c : Value} :
    (∃ value, leftFirst .error a b c = .ok value) ↔ a.Even b ∧ a.Even c ∧ b.Even c := by
  rw [leftFirst]
  cases joins : a.concat .error b with
  | error lengths =>
      have uneven : ¬a.Even b := by simp [← exists_concat_strict_iff, joins]
      simp [Except.bind, uneven]
  | ok joined =>
      have even : a.Even b := exists_concat_strict_iff.mp ⟨joined, joins⟩
      rw [Except.bind, exists_concat_strict_iff, even_joined_iff joins]
      exact (and_iff_right even).symm

private theorem exists_rightFirst_strict_iff {a b c : Value} :
    (∃ value, rightFirst .error a b c = .ok value) ↔ a.Even b ∧ a.Even c ∧ b.Even c := by
  rw [rightFirst, ← and_assoc]
  cases joins : b.concat .error c with
  | error lengths =>
      have uneven : ¬b.Even c := by simp [← exists_concat_strict_iff, joins]
      simp [Except.bind, uneven]
  | ok joined =>
      have even : b.Even c := exists_concat_strict_iff.mp ⟨joined, joins⟩
      rw [Except.bind, exists_concat_strict_iff, even_comm a joined, even_joined_iff joins,
        even_comm b a, even_comm c a]
      exact (and_iff_left even).symm

private theorem bind_of_strict {left right value : Value}
    (next : ZipPolicy → Value → Except LengthMismatch Value)
    (each : ∀ joined, next .error joined = .ok value → ∀ policy, next policy joined = .ok value)
    (joins : (left.concat .error right).bind (next .error) = .ok value) (policy : ZipPolicy) :
    (left.concat policy right).bind (next policy) = .ok value := by
  cases first : left.concat .error right with
  | error lengths => simp [first, Except.bind] at joins
  | ok joined =>
      rw [first] at joins
      rw [concat_of_strict first policy]
      exact each joined joins policy

private theorem leftFirst_of_strict {a b c value : Value}
    (joins : leftFirst .error a b c = .ok value) (policy : ZipPolicy) :
    leftFirst policy a b c = .ok value :=
  bind_of_strict (fun policy joined => joined.concat policy c) (fun _ => concat_of_strict) joins
    policy

private theorem rightFirst_of_strict {a b c value : Value}
    (joins : rightFirst .error a b c = .ok value) (policy : ZipPolicy) :
    rightFirst policy a b c = .ok value :=
  bind_of_strict (fun policy joined => a.concat policy joined) (fun _ => concat_of_strict) joins
    policy

private theorem leftFirst_sameValue {policy : ZipPolicy} (cuts : policy ≠ .pad) (a b c : Value) :
    SameValue (leftFirst policy a b c) (rightFirst policy a b c) := by
  cases policy with
  | truncate =>
      rw [leftFirst_truncate, sameValue_iff]
  | pad => contradiction
  | error =>
      cases left : leftFirst .error a b c with
      | ok value =>
          obtain ⟨other, right⟩ := exists_rightFirst_strict_iff.mpr
            (exists_leftFirst_strict_iff.mp ⟨value, left⟩)
          -- both are the value under the policy that cuts, which is one and the same
          have same := leftFirst_truncate a b c
          rw [leftFirst_of_strict left, rightFirst_of_strict right] at same
          exact .inl ⟨value, rfl, right.trans same.symm⟩
      | error lengths =>
          cases right : rightFirst .error a b c with
          | ok value =>
              obtain ⟨other, joins⟩ := exists_leftFirst_strict_iff.mpr
                (exists_rightFirst_strict_iff.mp ⟨value, right⟩)
              rw [left] at joins
              contradiction
          | error others => exact .inr ⟨lengths, others, rfl, rfl⟩

/-! ## A row of operands -/

/-- The join of two operands, with no regard to the lengths for which there may be none. -/
def concat? (policy : ZipPolicy) (left right : Value) : Option Value :=
  (left.concat policy right).toOption

theorem concat?_assoc {policy : ZipPolicy} (cuts : policy ≠ .pad) (a b c : Value) :
    ((concat? policy a b).bind fun joined => concat? policy joined c) =
      (concat? policy b c).bind (concat? policy a) := by
  have same := sameValue_iff.mp (leftFirst_sameValue cuts a b c)
  rwa [leftFirst, rightFirst, toOption_bind, toOption_bind] at same

private theorem concat?_foldlM {policy : ZipPolicy} (cuts : policy ≠ .pad) (front first : Value)
    (row : List Value) :
    (row.foldlM (concat? policy) first).bind (concat? policy front) =
      (concat? policy front first).bind fun joined => row.foldlM (concat? policy) joined := by
  induction row generalizing first with
  | nil => simp
  | cons next row ih =>
      calc
        _ = (concat? policy first next).bind fun joined =>
              (row.foldlM (concat? policy) joined).bind (concat? policy front) := by
            rw [List.foldlM_cons, Option.bind_eq_bind, Option.bind_assoc]
        _ = ((concat? policy first next).bind (concat? policy front)).bind fun joined =>
              row.foldlM (concat? policy) joined := by
            simp only [ih, Option.bind_assoc]
        _ = _ := by
            rw [← concat?_assoc cuts, Option.bind_assoc]
            rfl

end Value

namespace Operands

private theorem toOption_merged_cons (policy : ZipPolicy) (operand : Value)
    (operands : List Value) :
    (merged policy (operand :: operands)).toOption =
      operands.foldlM (Value.concat? policy) operand := by
  rw [merged_cons]
  induction operands generalizing operand with
  | nil => rfl
  | cons next operands ih =>
      refine (toOption_bind (operand.concat policy next) _).trans ?_
      simp only [ih]
      rfl

private theorem merged_sameValue {policy : ZipPolicy} (cuts : policy ≠ .pad)
    (before behind : List Value) {group : List Value} (nonempty : group ≠ []) :
    SameValue (merged policy (before ++ group ++ behind))
      ((merged policy group).bind fun value => merged policy (before ++ value :: behind)) := by
  obtain ⟨first, row, rfl⟩ := List.exists_cons_of_ne_nil nonempty
  rw [sameValue_iff, toOption_bind]
  cases before with
  | nil => simp [toOption_merged_cons]
  | cons head before =>
      have joins (reached : Value) := Value.concat?_foldlM cuts reached first row
      simp only [List.cons_append, List.append_assoc, toOption_merged_cons, List.foldlM_append,
        List.foldlM_cons, Option.bind_eq_bind]
      rw [Option.bind_comm]
      simp only [← Option.bind_assoc, joins]

end Operands

/-! ## Chains -/

/-- Three operands are joined to the same value whichever two are joined first, unless sequences are
filled up; under the strict policy they may fail for other lengths.  So it makes no difference to
the value of a chain if some neighbours among its operands are merged first. -/
theorem Value.grouping_neighbours {Tree : Type} (backends : Backends Tree)
    (document : Document Tree) :
    (∀ a b c : Value, ∃ value,
        leftFirst .truncate a b c = .ok value ∧ rightFirst .truncate a b c = .ok value) ∧
      (∀ a b c : Value, SameValue (leftFirst .error a b c) (rightFirst .error a b c)) ∧
      ∀ (config : EngineConfig) (chain : Chain) (before group behind : List Value),
        config.zipPolicy ≠ .pad → group ≠ [] →
          chain.Finds backends config document (before ++ group ++ behind) →
            let policy := config.zipPolicy
            let grouped := (Operands.merged policy group).bind fun value =>
              Operands.merged policy (before ++ value :: behind)
            ∃ result, chain.evaluate backends config document = result.mapError .lengthMismatch ∧
              SameValue result grouped ∧
              (policy = .truncate → ∃ value, result = .ok value) := by
  refine ⟨fun a b c => ?_, fun a b c => leftFirst_sameValue (by decide) a b c, ?_⟩
  · have lenient : ZipPolicy.truncate ≠ .error := by decide
    obtain ⟨first, joins⟩ := exists_concat_of_lenient lenient a b
    obtain ⟨value, done⟩ := exists_concat_of_lenient lenient first c
    have left : leftFirst .truncate a b c = .ok value := by rw [leftFirst, joins, Except.bind, done]
    exact ⟨value, left, leftFirst_truncate a b c ▸ left⟩
  · intro config chain before group behind cuts nonempty found policy grouped
    refine ⟨_, mergeTerms_eq_merged found, Operands.merged_sameValue cuts before behind nonempty,
      fun truncates => ?_⟩
    obtain ⟨first, row, split⟩ :=
      List.exists_cons_of_ne_nil (l := before ++ group ++ behind) (by simp [nonempty])
    rw [show config.zipPolicy = _ from truncates, split, Operands.merged_cons]
    exact exists_foldlM_concat_of_lenient (by decide) row first

/-- What a sequence is filled up with is not joined with the scalars before. -/
example :
    let a : Value := .scalar (.string "<")
    let b : Value := .sequence [.string "1"]
    let c : Value := .sequence [.string "x", .string "y"]
    Value.leftFirst .pad a b c = .ok (.sequence [.string "<1x", .string "y"]) ∧
      Value.rightFirst .pad a b c = .ok (.sequence [.string "<1x", .string "<y"]) := by
  decide

/-- Three lists of different lengths are cut to one value either way, and do not fit together for
other lengths if the last two are merged first. -/
theorem Value.grouping_neighbours_of_uneven_lists :
    let found (query : String) : List (Option String) :=
      if query = ".a" then [some "1", none] else if query = ".b" then [none, none, some "2"]
      else [some "x", none, some "y", none]
    let backends : Backends Unit :=
      { markup := { load := fun _ => (), queryAll := fun _ query _ => .ok (found query) }
        path := jsonPathBackend }
    let document : Document Unit := .html "" ()
    let chain : Chain :=
      { terms := [{ selector := .css ".a" .text }, { selector := .css ".b" .text },
          { selector := .css ".c" .text }] }
    let a : Value := .sequence [.string "1", .null]
    let b : Value := .sequence [.null, .null, .string "2"]
    let c : Value := .sequence [.string "x", .null, .string "y", .null]
    let grouped (policy : ZipPolicy) := (Operands.merged policy [b, c]).bind fun value =>
      Operands.merged policy [a, value]
    let cut : Value := .sequence [.string "1x", .null]
    chain.Finds backends {} document [a, b, c] ∧
      chain.evaluate backends {} document = .ok cut ∧ grouped .truncate = .ok cut ∧
      chain.evaluate backends { zipPolicy := .error } document =
        .error (.lengthMismatch { left := 2, right := 3 }) ∧
      grouped .error = .error { left := 3, right := 4 } := by
  intro found backends document chain a b c grouped cut
  have finds : chain.Finds backends {} document [a, b, c] :=
    .cons ⟨_, rfl, rfl⟩ (.cons ⟨_, rfl, rfl⟩ (.cons ⟨_, rfl, rfl⟩ .nil))
  have cuts : grouped .truncate = .ok cut := by decide
  have fails : grouped .error = .error { left := 3, right := 4 } := by decide
  obtain ⟨-, -, neighbours⟩ := grouping_neighbours backends document
  obtain ⟨result, evaluated, same, -⟩ :=
    neighbours {} chain [a] [b, c] [] (by decide) (by decide) finds
  obtain ⟨value, rfl, made⟩ | ⟨cause, other, -, made⟩ := same
  · obtain rfl := Except.ok.inj (cuts.symm.trans made)
    exact ⟨finds, evaluated, cuts, by decide, fails⟩
  · cases cuts.symm.trans made

end Gleaner
