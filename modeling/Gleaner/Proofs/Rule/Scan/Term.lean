import Gleaner.Proofs.Rule.Scan
import Gleaner.Proofs.Rule.Separator
import Gleaner.Proofs.Rule.Term
import Mathlib.Data.List.Induction

/-!
# Scans of terms

Every byte and every slice that a scan of a term asks for is there, whatever the term is, so the
scanners of terms give what they give on characters.
-/

namespace Gleaner.Rule.Scan

open Text

section

variable {text word before after front back term body rest : List Char} {offset : Nat}

/-! ## The last place of a word -/

private theorem lastOffset?_eq_none (nonempty : word ≠ []) (none : lastOffset? word text = none)
    (left right : List Char) : text ≠ left ++ (word ++ right) := by
  induction text generalizing left with
  | nil => simp [nonempty]
  | cons c rest ih =>
      simp only [lastOffset?] at none
      split at none
      · contradiction
      · next absent =>
          intro split
          cases left with
          | nil =>
              have starts : word.isPrefixOf (c :: rest) = true :=
                List.isPrefixOf_iff_prefix.mpr ⟨right, split.symm⟩
              simp [starts] at none
          | cons d left => exact ih absent left (List.cons.inj split).2

private theorem lastOffset?_eq_some (nonempty : word ≠ [])
    (found : lastOffset? word text = some offset) :
    ∃ before after, text = before ++ (word ++ after) ∧ byteLength before = offset ∧
      ∀ left right, text = left ++ (word ++ right) → byteLength left ≤ offset := by
  induction text generalizing offset with
  | nil => simp [lastOffset?] at found
  | cons c rest ih =>
      simp only [lastOffset?] at found
      split at found
      · next inner behind =>
          obtain rfl := Option.some.inj found
          obtain ⟨before, after, rfl, rfl, last⟩ := ih behind
          refine ⟨c :: before, after, rfl, rfl, fun left right split => ?_⟩
          cases left with
          | nil => exact Nat.zero_le _
          | cons d left =>
              obtain ⟨rfl, same⟩ := List.cons.inj split
              exact Nat.add_le_add_left (last left right same) _
      · next absent =>
          obtain ⟨starts, same⟩ := Option.ite_none_right_eq_some.mp found
          obtain rfl := Option.some.inj same
          obtain ⟨after, same⟩ := List.isPrefixOf_iff_prefix.mp starts
          refine ⟨[], after, same.symm, rfl, fun left right split => ?_⟩
          cases left with
          | nil => exact Nat.le_refl 0
          | cons d left =>
              exact absurd (List.cons.inj split).2 (lastOffset?_eq_none nonempty absent left right)

/-! ## Separators -/

private theorem utf8Size_sign : '#'.utf8Size = 1 := rfl

private theorem isEscapedAt_append (before after : List Char) :
    isEscapedAt (before ++ after) (byteLength before) = .ok (endsEscaped false before) := by
  cases before using List.reverseRecOn with
  | nil => rfl
  | append_singleton init c =>
      have positive := c.utf8Size_pos
      obtain ⟨byte, there, code⟩ : ∃ byte, (_ : Scanned UInt8) = _ ∧ _ :=
        byteAt_append init c after (Nat.sub_lt positive Nat.one_pos)
      have last : byteLength (init ++ [c]) - 1 = byteLength init + (c.utf8Size - 1) := by
        simp only [byteLength_append, byteLength]
        omega
      have inside : 0 < byteLength (init ++ [c]) := by
        simp only [byteLength_append, byteLength]
        omega
      rw [isEscapedAt, if_pos inside, last, List.append_assoc, List.singleton_append, there,
        endsEscaped_eq, List.getLast?_concat]
      have same := code '\\' (by decide)
      simp [Except.map, Bool.beq_eq_decide_eq, same]

/-- The places of the open separators that end in front of the offset. -/
def openBefore (term : List Char) (stop : Nat) : Set Nat :=
  {offset | OpenAt term offset ∧ offset + 2 ≤ stop}

private theorem openBefore_byteLength (term : List Char) :
    openBefore term (byteLength term) = {offset | OpenAt term offset} := by
  refine Set.ext fun offset => ⟨fun member => member.1, ?_⟩
  rintro ⟨before, after, rfl, rfl, bare⟩
  refine ⟨⟨before, after, rfl, rfl, bare⟩, ?_⟩
  simp only [byteLength_append, byteLength, utf8Size_sign]
  omega

private theorem exists_of_separator_inside {left right : List Char}
    (split : front ++ back = left ++ ('#' :: '#' :: right))
    (bytes : byteLength left + 2 ≤ byteLength front) :
    ∃ tail, front = left ++ (['#', '#'] ++ tail) := by
  have first : left ++ ['#', '#'] <+: front ++ back := ⟨right, by simp [split]⟩
  have shorter : byteLength (left ++ ['#', '#']) ≤ byteLength front := by
    simpa [byteLength, utf8Size_sign] using bytes
  obtain ⟨tail, rfl⟩ := prefix_of_byteLength_le first (List.prefix_append front back) shorter
  exact ⟨tail, List.append_assoc _ _ _⟩

private theorem slices_of_separator (whole : term = before ++ (['#', '#'] ++ after)) :
    (sliceTo term (byteLength before) : Scanned _) = .ok before ∧
      (sliceFrom term (byteLength before + 2) : Scanned _) = .ok after := by
  have place : byteLength before + 2 = byteLength (before ++ ['#', '#']) := by
    simp [byteLength, utf8Size_sign]
  constructor
  · rw [whole]
    exact sliceTo_append before _
  · rw [whole, place, ← List.append_assoc]
    exact sliceFrom_append _ _

private theorem openBefore_eq_empty (absent : ∀ left right, front ≠ left ++ (['#', '#'] ++ right)) :
    openBefore (front ++ back) (byteLength front) = ∅ := by
  refine Set.eq_empty_of_forall_notMem ?_
  rintro offset ⟨⟨left, right, same, rfl, -⟩, inside⟩
  obtain ⟨tail, there⟩ := exists_of_separator_inside same inside
  exact absent left tail there

section

variable (split : front = before ++ (['#', '#'] ++ after))
  (last : ∀ left right, front = left ++ (['#', '#'] ++ right) → byteLength left ≤ byteLength before)

include split last

/-- When the last separator in front of the offset is escaped, the open ones all end in front of
its place. -/
private theorem openBefore_of_escaped (guarded : endsEscaped false before = true) :
    openBefore (front ++ back) (byteLength front) =
      openBefore (front ++ back) (byteLength before) := by
  have order : byteLength before ≤ byteLength front := by simp [split]
  refine Set.ext fun offset => ⟨?_, fun member => ⟨member.1, member.2.trans order⟩⟩
  rintro ⟨⟨left, right, same, rfl, bare⟩, inside⟩
  refine ⟨⟨left, right, same, rfl, bare⟩, ?_⟩
  obtain ⟨tail, there⟩ := exists_of_separator_inside same inside
  obtain ⟨middle, rfl⟩ : left <+: before :=
    prefix_of_byteLength_le ⟨_, there.symm⟩ ⟨_, split.symm⟩ (last left tail there)
  -- Between the two starts lies more than one sign, since neither of them is escaped.
  match middle with
  | [] =>
      rw [List.append_nil, (endsEscaped_false_iff left).mpr bare] at guarded
      contradiction
  | [sign] =>
      rw [split, List.append_assoc] at there
      obtain rfl : sign = '#' := (List.cons.inj (List.append_cancel_left there)).1
      rw [endsEscaped_eq, List.getLast?_concat] at guarded
      contradiction
  | first :: second :: middle =>
      have one := first.utf8Size_pos
      have two := second.utf8Size_pos
      simp only [byteLength_append, byteLength]
      omega

private theorem isGreatest_openBefore (bare : endsEscaped false before = false) :
    IsGreatest (openBefore (front ++ back) (byteLength front)) (byteLength before) := by
  have whole : front ++ back = before ++ '#' :: '#' :: (after ++ back) := by simp [split]
  refine ⟨⟨⟨before, _, whole, rfl, (endsEscaped_false_iff before).mp bare⟩, ?_⟩, ?_⟩
  · simp only [split, byteLength_append, byteLength, utf8Size_sign]
    omega
  · rintro offset ⟨⟨left, right, same, rfl, -⟩, inside⟩
    obtain ⟨tail, there⟩ := exists_of_separator_inside same inside
    exact last left tail there

end

private theorem exists_splitBefore_eq (stop : Nat) (front back : List Char)
    (length : byteLength front = stop) :
    ∃ parts, splitBefore (front ++ back) stop = .ok parts ∧
      CutAt (front ++ back) (openBefore (front ++ back) stop) parts := by
  -- The scan goes from one escaped separator to the one in front of it.
  induction stop using Nat.strong_induction_on generalizing front back with
  | _ stop ih =>
      subst length
      have taken : (sliceTo (front ++ back) (byteLength front) : Scanned _) = .ok front :=
        sliceTo_append front back
      rw [splitBefore]
      split
      · next failed => simp [taken] at failed
      · next part found =>
          obtain rfl := Except.ok.inj (taken.symm.trans found)
          split
          · next absent =>
              have none_inside := lastOffset?_eq_none (by simp) absent
              exact ⟨_, rfl, .uncut (openBefore_eq_empty none_inside)⟩
          · next offset found =>
              obtain ⟨before, after, split, rfl, last⟩ := lastOffset?_eq_some (by simp) found
              have whole : front ++ back = before ++ (['#', '#'] ++ (after ++ back)) := by
                simp [split]
              have guard : isEscapedAt (front ++ back) (byteLength before) =
                  .ok (endsEscaped false before) := by
                rw [whole]
                exact isEscapedAt_append before _
              rw [guard]
              cases guarded : endsEscaped false before with
              | true =>
                  have earlier := ih _ (lastOffset?_lt found) before
                    (['#', '#'] ++ (after ++ back)) rfl
                  rw [← whole] at earlier
                  rwa [openBefore_of_escaped split last guarded]
              | false =>
                  obtain ⟨body, raw⟩ := slices_of_separator whole
                  refine ⟨(before, some (after ++ back)), ?_,
                    .last whole (isGreatest_openBefore split last guarded)⟩
                  simp only [body, raw, bind, Except.bind, pure, Except.pure]

theorem splitSanitizer_eq (term : List Char) :
    splitSanitizer term = .ok (Rule.splitSanitizer term) := by
  obtain ⟨parts, scanned, cut⟩ := exists_splitBefore_eq _ term [] rfl
  rw [List.append_nil] at scanned cut
  rw [openBefore_byteLength] at cut
  rw [splitSanitizer, scanned, cut.unique (cutAt_splitSanitizer term)]

private theorem splitSanitizer_eq_ok_iff {parts : List Char × Option (List Char)} :
    splitSanitizer term = .ok parts ↔ CutAt term {offset | OpenAt term offset} parts := by
  rw [splitSanitizer_eq, Except.ok.injEq]
  constructor
  · rintro rfl
    exact cutAt_splitSanitizer term
  · exact (cutAt_splitSanitizer term).unique

/-- The scan that goes back from one separator to the one in front of it always ends, with what the
reader gives.  It cuts at the greatest offset where a separator is open, separators that overlap
with others included, and leaves the term whole exactly if there is none. -/
theorem splitSanitizer_at_last_open (term : List Char) :
    splitSanitizer term = .ok (Rule.splitSanitizer term) ∧
      (∀ body raw, splitSanitizer term = .ok (body, some raw) ↔
        ∃ offset, IsGreatest {place | OpenAt term place} offset ∧
          (sliceTo term offset : Scanned _) = .ok body ∧
          (sliceFrom term (offset + 2) : Scanned _) = .ok raw) ∧
      ∀ body, splitSanitizer term = .ok (body, none) ↔
        body = term ∧ ∀ offset, ¬OpenAt term offset := by
  refine ⟨splitSanitizer_eq term, fun body raw => ?_, fun body => ?_⟩
  · rw [splitSanitizer_eq_ok_iff]
    constructor
    · rintro (⟨split, greatest⟩ | _)
      exact ⟨_, greatest, slices_of_separator split⟩
    · rintro ⟨offset, greatest, front, behind⟩
      obtain ⟨before, after, split, rfl, -⟩ := id greatest.1
      obtain ⟨sliced, rest⟩ := slices_of_separator split
      obtain rfl := Except.ok.inj (sliced.symm.trans front)
      obtain rfl := Except.ok.inj (rest.symm.trans behind)
      exact .last split greatest
  · rw [splitSanitizer_eq_ok_iff]
    constructor
    · rintro (_ | empty)
      exact ⟨rfl, Set.eq_empty_iff_forall_notMem.mp empty⟩
    · rintro ⟨rfl, closed⟩
      exact .uncut (Set.eq_empty_of_forall_notMem closed)

-- The last two of three signs are open, though a backslash stands in front of the first two.
example : Rule.splitSanitizer "a\\###b".toList = ("a\\#".toList, some "b".toList) := by
  decide

/-! ## Attributes -/

theorem splitAttribute_eq (body : List Char) :
    splitAttribute body = .ok (Rule.splitAttribute body) := by
  unfold splitAttribute Rule.splitAttribute
  cases found : lastOffset? ['@'] body with
  | none =>
      have absent : '@' ∉ body := by
        intro member
        obtain ⟨left, right, split⟩ := List.append_of_mem member
        exact lastOffset?_eq_none (by simp) found left right split
      rw [splitLastAt_eq_none absent]
  | some offset =>
      obtain ⟨front, back, rfl, rfl, last⟩ := lastOffset?_eq_some (by simp) found
      have absent : '@' ∉ back := by
        intro member
        obtain ⟨left, right, rfl⟩ := List.append_of_mem member
        have bound := last (front ++ '@' :: left) right (by simp)
        have positive := '@'.utf8Size_pos
        simp only [byteLength_append, byteLength] at bound
        omega
      have name : (sliceFrom (front ++ (['@'] ++ back)) (byteLength front + 1) : Scanned _) =
          .ok back := by
        have place : byteLength front + 1 = byteLength (front ++ ['@']) := by
          rw [byteLength_append]
          rfl
        rw [place, ← List.append_assoc]
        exact sliceFrom_append _ _
      have selector : (sliceTo (front ++ (['@'] ++ back)) (byteLength front) : Scanned _) =
          .ok front := sliceTo_append front _
      have cut : splitLastAt (front ++ (['@'] ++ back)) = some (front, back) :=
        splitLastAt_append front absent
      simp only [cut, name, selector, bind, Except.bind, pure, Except.pure]
      split <;> rfl

/-! ## Bare combinators -/

theorem spacedBehind_eq (before rest : List Char) (quote : Option Char) :
    spacedBehind (before ++ rest) (byteLength before) quote rest =
      .ok (spacedOutside quote rest) := by
  induction rest generalizing before quote with
  | nil => rfl
  | cons c rest ih =>
      have next (quote : Option Char) : spacedBehind (before ++ c :: rest)
          (byteLength before + c.utf8Size) quote rest = .ok (spacedOutside quote rest) := by
        have behind := ih (before ++ [c]) quote
        simpa [byteLength] using behind
      have here : (sliceFrom (before ++ c :: rest) (byteLength before) : Scanned _) =
          .ok (c :: rest) := sliceFrom_append before _
      cases quote with
      | some mark => exact next _
      | none =>
          simp only [spacedBehind, spacedOutside, next, here]
          split_ifs with opens space
          · rfl
          · cases starts : startsSpaced (c :: rest) <;>
              simp [bind, Except.bind, pure, Except.pure, starts]
          · rw [startsSpaced_cons_eq_false (by simpa using space), Bool.false_or]

theorem hasBareCombinator_eq (body : List Char) :
    hasBareCombinator body = .ok (Rule.hasBareCombinator body) := by
  have inside : spacedBehind body 0 none body = .ok (spacedOutside none body) :=
    spacedBehind_eq [] body none
  unfold hasBareCombinator Rule.hasBareCombinator
  dsimp only
  rw [inside]
  split
  · next ends => simp [ends]
  · next open_end => simp [open_end]

/-! ## Terms -/

theorem selectorOf_eq (kind : SelectorKind) (segment body : List Char) :
    selectorOf kind segment body = lift (Rule.selectorOf kind segment body) := by
  cases kind with
  | text => rfl
  | regex => rfl
  | json =>
      simp only [selectorOf, Rule.selectorOf, hasBareCombinator_eq, bind, Except.bind]
      cases Rule.hasBareCombinator body
      · simp only [Bool.false_eq_true, if_false]
        split <;> rfl
      · rfl
  | css =>
      simp only [selectorOf, Rule.selectorOf, hasBareCombinator_eq, splitAttribute_eq, bind,
        Except.bind]
      cases Rule.hasBareCombinator body
      · simp only [Bool.false_eq_true, if_false]
        split <;> rfl
      · rfl

theorem termOf_eq (segment : List Char) : termOf segment = lift (Rule.termOf segment) := by
  unfold termOf Rule.termOf
  cases splitTag? segment with
  | none => rfl
  | some parts =>
      obtain ⟨kind, text⟩ := parts
      simp only [splitSanitizer_eq, selectorOf_eq, bind, Except.bind]
      cases Rule.selectorOf kind segment (unescape (Rule.splitSanitizer text).1) with
      | error cause => rfl
      | ok selector =>
          cases sanitizerOf segment (Rule.splitSanitizer text).2 <;> rfl

theorem isLabel_eq (segment : List Char) : isLabel segment = .ok (Rule.isLabel segment) := by
  unfold isLabel Rule.isLabel
  dsimp only
  split
  · next tagged =>
      simp only [splitSanitizer_eq, bind, Except.bind, tagged, Bool.true_and]
      cases Rule.splitSanitizer (segment.drop SelectorKind.text.tag.toList.length) with
      | mk literal raw => cases raw <;> rfl
  · next other =>
      rw [Bool.not_eq_true] at other
      rw [other, Bool.false_and]

end

end Gleaner.Rule.Scan
