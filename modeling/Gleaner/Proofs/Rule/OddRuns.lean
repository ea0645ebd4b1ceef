import Gleaner.Proofs.Rule.Term

/-!
# Odd runs of number signs

Escaping takes the signs of a run in pairs.  A sign that is left over behind a pair makes an open
separator with the sign in front of it.  So an escaped text is cut in the last run that has such a
sign, and stays whole if there is none.
-/

namespace Gleaner.Rule

/-- The last run of number signs that is odd and not single: so many pairs, and three more signs. -/
structure LastOddRun (text before : List Char) (pairs : Nat) (after : List Char) : Prop where
  /-- Where the run stands in the text. -/
  split : text = before ++ List.replicate (2 * pairs + 3) '#' ++ after
  /-- No sign stands in front of it. -/
  opens : before.getLast? ≠ some '#'
  /-- No sign stands behind it. -/
  closes : after.head? ≠ some '#'
  /-- All runs behind it are single or consist of pairs. -/
  paired : PairedSigns after

/-! ## Escaping around a run -/

private theorem escape_append {left right : List Char} (stops : right.head? ≠ some '#') :
    escape (left ++ right) = escape left ++ escape right := by
  cases right with
  | nil => simp [escape]
  | cons c rest => exact escape_append_cons left rest (by simpa using stops)

private theorem escape_append_of_getLast? {left : List Char} (ends : left.getLast? ≠ some '#')
    (right : List Char) : escape (left ++ right) = escape left ++ escape right := by
  cases left using List.reverseRecOn with
  | nil => rfl
  | append_singleton init c =>
      have other : c ≠ '#' := by simpa using ends
      rw [List.append_assoc, List.singleton_append, escape_append_cons init right other,
        escape_append_cons init [] other, escape_other right other, escape_other [] other]
      simp [escape]

private theorem escape_pairs_append (pairs : Nat) (rest : List Char) :
    escape (List.replicate (2 * pairs) '#' ++ rest) =
      escape (List.replicate (2 * pairs) '#') ++ escape rest := by
  induction pairs with
  | zero => rfl
  | succ pairs ih => simp [Nat.mul_succ, List.replicate_succ, escape, ih]

namespace LastOddRun

variable {text before after : List Char} {pairs : Nat}

theorem cons (c : Char) (run : LastOddRun text before pairs after)
    (opens : before ≠ [] ∨ c ≠ '#') : LastOddRun (c :: text) (c :: before) pairs after where
  split := by rw [run.split]; rfl
  opens := by
    cases before with
    | nil => simpa using opens
    | cons head tail => simpa using run.opens
  closes := run.closes
  paired := run.paired

private theorem escape_eq (run : LastOddRun text before pairs after) :
    escape text = (escape (before ++ List.replicate (2 * pairs) '#') ++ ['\\', '#']) ++
      '#' :: '#' :: escape after := by
  have three : escape (List.replicate 3 '#') = ['\\', '#', '#', '#'] := rfl
  rw [run.split, escape_append run.closes, List.replicate_add,
    escape_append_of_getLast? run.opens, escape_append_of_getLast? run.opens,
    escape_pairs_append, three]
  simp

theorem cutLast_escape (run : LastOddRun text before pairs after) (escaped : Bool) :
    cutLast escaped (escape text) =
      some (escape (before ++ List.replicate (2 * pairs) '#') ++ ['\\', '#'], escape after) := by
  rw [run.escape_eq]
  refine cutLast_append_pair escaped ?bare ?closed ?stops
  case bare => simp [endsEscaped_eq]
  case closed => exact (cutLast_escape_eq_none_iff false after).mpr run.paired
  case stops =>
    rw [ne_eq, head?_escape]
    cases after with
    | nil => simp [startsLone]
    | cons c rest => simp [startsLone_other rest (by simpa using run.closes)]

end LastOddRun

/-- A text in which some run is neither single nor even has a last odd run. -/
theorem exists_lastOddRun {text : List Char} (odd : ¬PairedSigns text) :
    ∃ before pairs after, LastOddRun text before pairs after := by
  induction text with
  | nil => exact absurd pairedSigns_nil odd
  | cons c rest ih =>
      by_cases paired : PairedSigns rest
      · -- The sign in front makes an even run at the start odd.
        obtain rfl : c = '#' := by
          by_contra other
          exact odd ((pairedSigns_cons_of_ne rest other).mpr paired)
        obtain ⟨count, after, rfl, closes⟩ := exists_replicate_append rest
        have longer : '#' :: (List.replicate count '#' ++ after) =
            List.replicate (count + 1) '#' ++ after := by
          simp [List.replicate_succ]
        obtain ⟨whole, behind⟩ := (pairedSigns_replicate_append count closes).mp paired
        rw [longer, pairedSigns_replicate_append _ closes] at odd
        obtain ⟨pairs, rfl⟩ : ∃ pairs, count = 2 * pairs + 2 :=
          ⟨count / 2 - 1, by simp only [behind, and_true] at odd; omega⟩
        exact ⟨[], pairs, after, longer, by simp, closes, behind⟩
      · obtain ⟨before, pairs, after, run⟩ := ih paired
        refine ⟨c :: before, pairs, after, run.cons c ?_⟩
        by_contra! joined
        obtain ⟨rfl, rfl⟩ := joined
        -- A sign in front makes the run even, so no run is odd any more.
        have even : '#' :: rest = List.replicate (2 * pairs + 4) '#' ++ after := by
          rw [run.split]
          rfl
        refine odd ?_
        rw [even, pairedSigns_replicate_append _ run.closes]
        exact ⟨.inr (by omega), run.paired⟩

theorem cutLast_escape_eq_some_iff (escaped : Bool) (text body raw : List Char) :
    cutLast escaped (escape text) = some (body, raw) ↔
      ∃ before pairs after, LastOddRun text before pairs after ∧
        body = escape (before ++ List.replicate (2 * pairs) '#') ++ ['\\', '#'] ∧
        raw = escape after := by
  constructor
  · intro found
    have odd : ¬PairedSigns text := by
      rw [← cutLast_escape_eq_none_iff escaped, found]
      simp
    obtain ⟨before, pairs, after, run⟩ := exists_lastOddRun odd
    rw [run.cutLast_escape escaped] at found
    obtain ⟨rfl, rfl⟩ := Prod.mk.inj (Option.some.inj found)
    exact ⟨before, pairs, after, run, rfl, rfl⟩
  · rintro ⟨before, pairs, after, run, rfl, rfl⟩
    exact run.cutLast_escape escaped

/-- Unescaping undoes escaping.  An escaped string is left whole exactly if each run of number signs
in the string is single or of even length.  Else the last two signs of the last run that is neither
make the separator, and the sign in front of them keeps the backslash of its pair. -/
theorem splitSanitizer_escaped (text : String) :
    unescaped (escaped text).toList = text ∧
      (splitSanitizer (escaped text).toList = ((escaped text).toList, none) ↔
        PairedSigns text.toList) ∧
      ∀ body raw, splitSanitizer (escaped text).toList = (body, some raw) ↔
        ∃ before pairs after, LastOddRun text.toList before pairs after ∧
          body = escape (before ++ List.replicate (2 * pairs) '#') ++ ['\\', '#'] ∧
          raw = escape after := by
  have inner : (escaped text).toList = escape text.toList := String.toList_ofList
  rw [inner]
  refine ⟨?_, ?_, fun body raw => ?_⟩
  · rw [unescaped, unescape_escape, String.ofList_toList]
  · rw [splitSanitizer_eq_none_iff, cutLast_escape_eq_none_iff]
    simp
  · rw [splitSanitizer_eq_some_iff, cutLast_escape_eq_some_iff]

-- Of five signs the first two stay a pair, and the last two become the separator.
example : splitSanitizer (escaped "a#####b").toList = ("a\\##\\#".toList, some "b".toList) := by
  decide

end Gleaner.Rule
