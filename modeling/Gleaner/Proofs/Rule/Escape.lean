import Gleaner.Rule.Escape
import Mathlib.Data.List.Basic

/-!
# Escaping

Unescaping undoes escaping.  A text splits at a separator exactly where the text before it ends
in no backslash and no open pair of number signs is left behind it, and an escaped text keeps an
open pair exactly when one of its runs of number signs is odd and not single.
-/

namespace Gleaner.Rule

/-- The text starts with a number sign that no second one follows. -/
def startsLone : List Char → Bool
  | '#' :: '#' :: _ => false
  | '#' :: _ => true
  | _ => false

/-- Every maximal run of number signs is a single sign or consists of pairs. -/
def PairedSigns (text : List Char) : Prop :=
  ∀ before count after, text = before ++ List.replicate count '#' ++ after →
    before.getLast? ≠ some '#' → after.head? ≠ some '#' → count = 1 ∨ count % 2 = 0

/-! ## Runs of number signs -/

theorem exists_replicate_append (text : List Char) :
    ∃ count rest, text = List.replicate count '#' ++ rest ∧ rest.head? ≠ some '#' := by
  induction text with
  | nil => exact ⟨0, [], rfl, by simp⟩
  | cons c tail ih =>
      obtain ⟨count, rest, rfl, stops⟩ := ih
      by_cases sign : c = '#'
      · exact ⟨count + 1, rest, by simp [sign, List.replicate_succ], stops⟩
      · exact ⟨0, c :: (List.replicate count '#' ++ rest), rfl, by simpa using sign⟩

private theorem replicate_append_inj {left right : Nat} {before after : List Char}
    (before_stops : before.head? ≠ some '#') (after_stops : after.head? ≠ some '#')
    (same : List.replicate left '#' ++ before = List.replicate right '#' ++ after) :
    left = right := by
  induction left generalizing right with
  | zero =>
      cases right with
      | zero => rfl
      | succ right =>
          rw [List.replicate_zero, List.nil_append] at same
          exact absurd (by simp [same, List.replicate_succ]) before_stops
  | succ left ih =>
      cases right with
      | zero =>
          rw [List.replicate_zero, List.nil_append] at same
          exact absurd (by simp [← same, List.replicate_succ]) after_stops
      | succ right =>
          rw [ih (by simpa [List.replicate_succ] using same)]

theorem pairedSigns_replicate_append (count : Nat) {rest : List Char}
    (stops : rest.head? ≠ some '#') :
    PairedSigns (List.replicate count '#' ++ rest) ↔
      (count = 1 ∨ count % 2 = 0) ∧ PairedSigns rest := by
  constructor
  · intro paired
    refine ⟨paired [] count rest (by simp) (by simp) stops, ?_⟩
    rintro before inner after rfl opens closes
    cases before with
    | nil =>
        cases inner with
        | zero => exact Or.inr rfl
        | succ inner => exact absurd (by simp [List.replicate_succ]) stops
    | cons c tail =>
        exact paired (List.replicate count '#' ++ c :: tail) inner after
          (by simp) (by simpa using opens) closes
  · rintro ⟨whole, paired⟩ before inner after split opens closes
    rw [List.append_assoc] at split
    obtain ⟨run, rfl, rest_eq⟩ | ⟨middle, replicate_eq, rest_eq⟩ :=
      List.append_eq_append_iff.mp split
    · refine paired run inner after (by simpa using rest_eq) ?_ closes
      intro ends
      exact opens (by simp [ends])
    · obtain rfl : before = [] := by
        by_contra nonempty
        have ends : before.getLast nonempty ∈ List.replicate count '#' := by
          rw [replicate_eq]
          exact List.mem_append_left _ (List.getLast_mem nonempty)
        rw [List.getLast?_eq_getLast_of_ne_nil nonempty, List.eq_of_mem_replicate ends] at opens
        exact opens rfl
      rw [List.nil_append] at split
      rwa [← replicate_append_inj stops closes split]

theorem pairedSigns_cons_of_ne {c : Char} (rest : List Char) (other : c ≠ '#') :
    PairedSigns (c :: rest) ↔ PairedSigns rest := by
  constructor
  · rintro paired before count after rfl opens closes
    refine paired (c :: before) count after rfl ?_ closes
    cases before with
    | nil => simpa using other
    | cons head tail => simpa using opens
  · intro paired before count after split opens closes
    cases before with
    | nil =>
        cases count with
        | zero => exact Or.inr rfl
        | succ count =>
            simp only [List.replicate_succ, List.nil_append, List.cons_append,
              List.cons.injEq] at split
            exact absurd split.1 other
    | cons head tail =>
        simp only [List.cons_append, List.cons.injEq] at split
        refine paired tail count after split.2 ?_ closes
        cases tail with
        | nil => simp
        | cons next tail => simpa using opens

theorem pairedSigns_lone {rest : List Char} (stops : rest.head? ≠ some '#') :
    PairedSigns ('#' :: rest) ↔ PairedSigns rest := by
  simpa using pairedSigns_replicate_append 1 stops

private theorem startsLone_replicate_append (count : Nat) {rest : List Char}
    (stops : rest.head? ≠ some '#') :
    startsLone (List.replicate count '#' ++ rest) = true ↔ count = 1 := by
  match count with
  | 0 =>
      cases rest with
      | nil => simp [startsLone]
      | cons c tail =>
          have other : c ≠ '#' := by simpa using stops
          simp [startsLone, other]
  | 1 =>
      cases rest with
      | nil => simp [startsLone]
      | cons c tail =>
          have other : c ≠ '#' := by simpa using stops
          simp [startsLone, other]
  | count + 2 => simp [List.replicate_succ, startsLone]

theorem pairedSigns_pair (rest : List Char) :
    PairedSigns ('#' :: '#' :: rest) ↔ startsLone rest = false ∧ PairedSigns rest := by
  obtain ⟨count, tail, rfl, stops⟩ := exists_replicate_append rest
  have longer : '#' :: '#' :: (List.replicate count '#' ++ tail) =
      List.replicate (count + 2) '#' ++ tail := by
    simp [List.replicate_succ]
  rw [longer, pairedSigns_replicate_append _ stops, pairedSigns_replicate_append _ stops,
    ← Bool.not_eq_true, startsLone_replicate_append count stops]
  constructor
  · rintro ⟨whole, paired⟩
    exact ⟨by omega, by omega, paired⟩
  · rintro ⟨notOne, whole, paired⟩
    exact ⟨by omega, paired⟩

theorem pairedSigns_nil : PairedSigns [] := by
  rintro before count after split _ _
  have lengths := congrArg List.length split
  simp only [List.length_nil, List.length_append, List.length_replicate] at lengths
  omega

/-- Texts are built from pairs of number signs, lone number signs and other characters. -/
@[elab_as_elim]
theorem signInduction {motive : List Char → Prop} (nil : motive [])
    (pair : ∀ rest, motive rest → motive ('#' :: '#' :: rest))
    (lone : ∀ rest, rest.head? ≠ some '#' → motive rest → motive ('#' :: rest))
    (other : ∀ c rest, c ≠ '#' → motive rest → motive (c :: rest)) (text : List Char) :
    motive text := by
  fun_induction escape text with
  | case1 rest ih => exact pair rest ih
  | case2 c rest notPair ih =>
      by_cases sign : c = '#'
      · subst sign
        refine lone rest (fun second => ?_) ih
        obtain ⟨tail, rfl⟩ := List.head?_eq_some_iff.mp second
        exact notPair tail rfl rfl
      · exact other c rest sign ih
  | case3 => exact nil

/-! ## Unescaping -/

theorem escape_lone {rest : List Char} (stops : rest.head? ≠ some '#') :
    escape ('#' :: rest) = '#' :: escape rest := by
  rw [escape]
  rintro tail _ rfl
  exact absurd rfl stops

theorem escape_other {c : Char} (rest : List Char) (other : c ≠ '#') :
    escape (c :: rest) = c :: escape rest := by
  rw [escape]
  rintro tail rfl
  exact absurd rfl other

theorem startsLone_lone {rest : List Char} (stops : rest.head? ≠ some '#') :
    startsLone ('#' :: rest) = true := by
  simpa using (startsLone_replicate_append 1 stops).mpr rfl

theorem startsLone_other {c : Char} (rest : List Char) (other : c ≠ '#') :
    startsLone (c :: rest) = false := by
  simp [startsLone, other]

/-- An escaped text starts with a number sign only where the text itself has a lone one. -/
theorem head?_escape (text : List Char) :
    (escape text).head? = some '#' ↔ startsLone text = true := by
  induction text using signInduction with
  | nil => simp [escape, startsLone]
  | pair rest => simp [escape, startsLone]
  | lone rest stops => simp [escape_lone stops, startsLone_lone stops]
  | other c rest other => simp [escape_other rest other, startsLone_other rest other, other]

theorem unescape_cons {c : Char} {rest : List Char}
    (plain : c ≠ '\\' ∨ ∀ tail, rest ≠ '#' :: '#' :: tail) :
    unescape (c :: rest) = c :: unescape rest := by
  rw [unescape]
  rintro tail rfl rfl
  exact plain.elim (absurd rfl) (fun distinct => distinct tail rfl)

private theorem escape_ne_pair (text tail : List Char) : escape text ≠ '#' :: '#' :: tail := by
  induction text using signInduction with
  | nil => simp [escape]
  | pair rest => simp [escape]
  | lone rest stops =>
      rw [escape_lone stops]
      intro same
      have second : (escape rest).head? = some '#' := by simp [List.cons.inj same |>.2]
      have starts := (head?_escape rest).mp second
      cases rest with
      | nil => simp [startsLone] at starts
      | cons c rest =>
          rw [startsLone_other rest (by simpa using stops)] at starts
          exact absurd starts (by simp)
  | other c rest other =>
      rw [escape_other rest other]
      exact fun same => other (List.cons.inj same).1

theorem unescape_escape (text : List Char) : unescape (escape text) = text := by
  induction text using signInduction with
  | nil => rfl
  | pair rest ih => simp [escape, unescape, ih]
  | lone rest stops ih => rw [escape_lone stops, unescape_cons (.inl (by decide)), ih]
  | other c rest other ih =>
      rw [escape_other rest other, unescape_cons (.inr (escape_ne_pair rest)), ih]

/-! ## The last open pair -/

/-- A backslash ends the text; `escaped` tells whether one stands in front of it. -/
def endsEscaped (escaped : Bool) : List Char → Bool
  | [] => escaped
  | c :: rest => endsEscaped (c == '\\') rest

theorem endsEscaped_eq (text : List Char) (escaped : Bool) :
    endsEscaped escaped text = (text.getLast?.map (· == '\\')).getD escaped := by
  induction text generalizing escaped with
  | nil => rfl
  | cons c rest ih =>
      rw [endsEscaped, ih, List.getLast?_cons]
      cases rest.getLast? <;> rfl

theorem endsEscaped_false_iff (text : List Char) :
    endsEscaped false text = false ↔ text.getLast? ≠ some '\\' := by
  rw [endsEscaped_eq]
  cases text.getLast? <;> simp

theorem cutLast_cons (escaped : Bool) (c : Char) (rest : List Char) :
    cutLast escaped (c :: rest) =
      match cutLast (c == '\\') rest with
      | some (before, after) => some (c :: before, after)
      | none =>
          if c = '#' ∧ rest.head? = some '#' ∧ escaped = false then some ([], rest.tail)
          else none := by
  rw [cutLast.eq_def]
  dsimp only
  cases cutLast (c == '\\') rest with
  | some pieces => rfl
  | none =>
      dsimp only
      split
      · cases escaped <;> simp
      · next distinct =>
          rw [if_neg]
          rintro ⟨rfl, second, _⟩
          obtain ⟨tail, rfl⟩ := List.head?_eq_some_iff.mp second
          exact distinct tail rfl rfl

theorem cutLast_cons_eq_none_iff (escaped : Bool) (c : Char) (rest : List Char) :
    cutLast escaped (c :: rest) = none ↔
      cutLast (c == '\\') rest = none ∧ (c = '#' → rest.head? = some '#' → escaped = true) := by
  rw [cutLast_cons]
  cases cutLast (c == '\\') rest <;> simp

theorem cutLast_append_pair (escaped : Bool) {before after : List Char}
    (bare : endsEscaped escaped before = false) (closed : cutLast false after = none)
    (stops : after.head? ≠ some '#') :
    cutLast escaped (before ++ '#' :: '#' :: after) = some (before, after) := by
  induction before generalizing escaped with
  | nil =>
      have last : cutLast false ('#' :: after) = none :=
        (cutLast_cons_eq_none_iff false '#' after).mpr ⟨closed, fun _ second => absurd second stops⟩
      have open_pair : escaped = false := bare
      simp [cutLast_cons, last, open_pair]
  | cons c rest ih => simp [cutLast_cons, ih (c == '\\') bare]

theorem cutLast_eq_some {escaped : Bool} {text before after : List Char}
    (found : cutLast escaped text = some (before, after)) :
    text = before ++ '#' :: '#' :: after ∧ endsEscaped escaped before = false ∧
      cutLast false after = none ∧ after.head? ≠ some '#' := by
  induction text generalizing escaped before with
  | nil => simp [cutLast] at found
  | cons c rest ih =>
      rw [cutLast_cons] at found
      cases later : cutLast (c == '\\') rest with
      | some pieces =>
          simp only [later, Option.some.injEq, Prod.mk.injEq] at found
          obtain ⟨rfl, rfl⟩ := found
          obtain ⟨split, bare, closed, stops⟩ := ih later
          exact ⟨by rw [split]; rfl, bare, closed, stops⟩
      | none =>
          simp only [later, Option.ite_none_right_eq_some, Option.some.injEq,
            Prod.mk.injEq] at found
          obtain ⟨⟨rfl, second, rfl⟩, rfl, rfl⟩ := found
          obtain ⟨tail, rfl⟩ := List.head?_eq_some_iff.mp second
          obtain ⟨closed, alone⟩ := (cutLast_cons_eq_none_iff _ _ _).mp later
          exact ⟨rfl, rfl, closed, fun third => absurd (alone rfl third) (by decide)⟩

/-- The cut is at the last pair of number signs with no backslash in front. -/
theorem cutLast_eq_some_iff (escaped : Bool) (text before after : List Char) :
    cutLast escaped text = some (before, after) ↔
      text = before ++ '#' :: '#' :: after ∧ endsEscaped escaped before = false ∧
        cutLast false after = none ∧ after.head? ≠ some '#' := by
  constructor
  · exact cutLast_eq_some
  · rintro ⟨rfl, bare, closed, stops⟩
    exact cutLast_append_pair escaped bare closed stops

/-- There is no cut exactly when a backslash stands in front of every pair of number signs. -/
theorem cutLast_eq_none_iff (escaped : Bool) (text : List Char) :
    cutLast escaped text = none ↔ ∀ before after, text = before ++ '#' :: '#' :: after →
      endsEscaped escaped before = true := by
  induction text generalizing escaped with
  | nil => simp [cutLast]
  | cons c rest ih =>
      rw [cutLast_cons_eq_none_iff, ih]
      constructor
      · rintro ⟨later, own⟩ before after split
        cases before with
        | nil =>
            obtain ⟨rfl, rfl⟩ := List.cons.inj split
            exact own rfl rfl
        | cons head tail =>
            obtain ⟨rfl, behind⟩ := List.cons.inj split
            exact later tail after behind
      · intro guarded
        refine ⟨fun before after split => guarded (c :: before) after (by rw [split]; rfl), ?_⟩
        rintro rfl second
        obtain ⟨tail, rfl⟩ := List.head?_eq_some_iff.mp second
        exact guarded [] tail rfl

/-- An escaped text keeps no open pair exactly when its runs are single or paired. -/
theorem cutLast_escape_eq_none_iff (escaped : Bool) (text : List Char) :
    cutLast escaped (escape text) = none ↔ PairedSigns text := by
  induction text using signInduction generalizing escaped with
  | nil => simp [escape, cutLast, pairedSigns_nil]
  | pair rest ih =>
      have closes : (escape rest).head? ≠ some '#' ↔ startsLone rest = false := by
        rw [ne_eq, head?_escape, Bool.not_eq_true]
      simp only [escape, cutLast_cons_eq_none_iff, pairedSigns_pair, ih, ← closes]
      simp [and_comm]
  | lone rest stops ih =>
      have closes : (escape rest).head? ≠ some '#' := by
        rw [ne_eq, head?_escape]
        intro starts
        cases rest with
        | nil => simp [startsLone] at starts
        | cons c tail =>
            rw [startsLone_other tail (by simpa using stops)] at starts
            contradiction
      rw [escape_lone stops, cutLast_cons_eq_none_iff, ih, pairedSigns_lone stops]
      simp [closes]
  | other c rest other ih =>
      rw [escape_other rest other, cutLast_cons_eq_none_iff, ih, pairedSigns_cons_of_ne rest other]
      simp [other]

/-! ## Joining texts -/

theorem escape_append_cons (text : List Char) {c : Char} (rest : List Char) (other : c ≠ '#') :
    escape (text ++ c :: rest) = escape text ++ escape (c :: rest) := by
  induction text using signInduction with
  | nil => rfl
  | pair tail ih => simp [escape, ih]
  | lone tail stops ih =>
      rw [List.cons_append, escape_lone, ih, escape_lone stops, List.cons_append]
      cases tail with
      | nil => simpa using other
      | cons next tail => simpa using stops
  | other head tail distinct ih =>
      rw [List.cons_append, escape_other _ distinct, ih, escape_other _ distinct,
        List.cons_append]

private theorem startsLone_append_cons (text : List Char) {c : Char} (rest : List Char)
    (other : c ≠ '#') : startsLone (text ++ c :: rest) = startsLone text := by
  match text with
  | [] => exact startsLone_other rest other
  | [head] =>
      by_cases sign : head = '#'
      · subst sign
        exact startsLone_lone (by simpa using other)
      · rw [startsLone_other [] sign]
        exact startsLone_other _ sign
  | head :: next :: tail =>
      by_cases sign : head = '#'
      · by_cases second : next = '#'
        · simp [sign, second, startsLone]
        · subst sign
          rw [startsLone_lone (by simpa using second)]
          exact startsLone_lone (by simpa using second)
      · rw [startsLone_other _ sign]
        exact startsLone_other _ sign

theorem pairedSigns_append_cons (text : List Char) {c : Char} (rest : List Char)
    (other : c ≠ '#') :
    PairedSigns (text ++ c :: rest) ↔ PairedSigns text ∧ PairedSigns (c :: rest) := by
  induction text using signInduction with
  | nil => simp [pairedSigns_nil]
  | pair tail ih =>
      simp only [List.cons_append, pairedSigns_pair, ih, startsLone_append_cons tail rest other,
        and_assoc]
  | lone tail stops ih =>
      rw [List.cons_append, pairedSigns_lone, ih, pairedSigns_lone stops]
      cases tail with
      | nil => simpa using other
      | cons next tail => simpa using stops
  | other head tail distinct ih =>
      rw [List.cons_append, pairedSigns_cons_of_ne _ distinct, ih,
        pairedSigns_cons_of_ne _ distinct]

theorem escape_eq_self {text : List Char} (free : '#' ∉ text) : escape text = text := by
  induction text with
  | nil => rfl
  | cons c rest ih =>
      simp only [List.mem_cons, not_or] at free
      rw [escape_other rest (Ne.symm free.1), ih free.2]

theorem pairedSigns_of_notMem {text : List Char} (free : '#' ∉ text) : PairedSigns text := by
  induction text with
  | nil => exact pairedSigns_nil
  | cons c rest ih =>
      simp only [List.mem_cons, not_or] at free
      exact (pairedSigns_cons_of_ne rest (Ne.symm free.1)).mpr (ih free.2)

theorem unescape_eq_self {text : List Char} (free : '#' ∉ text) : unescape text = text := by
  simpa only [escape_eq_self free] using unescape_escape text

/-- No separator begins before a character other than a number sign and ends behind it. -/
theorem unescape_append {text rest : List Char} (stops : rest.head? ≠ some '#') :
    unescape (text ++ rest) = unescape text ++ unescape rest := by
  fun_induction unescape text with
  | case1 tail ih => simp [unescape, ih]
  | case2 c tail plain ih =>
      rw [List.cons_append, unescape_cons, ih, List.cons_append]
      by_contra pair
      simp only [ne_eq, not_or, Decidable.not_not, not_forall] at pair
      obtain ⟨rfl, after, split⟩ := pair
      match tail with
      | [] => exact stops (congrArg List.head? split)
      | [next] => exact stops (congrArg List.head? (List.cons.inj split).2)
      | next :: second :: tail =>
          simp only [List.cons_append, List.cons.injEq] at split
          exact plain tail rfl (by rw [split.1, split.2.1])
  | case3 => rfl

/-! ## Ends of texts -/

theorem getLast?_escape (text : List Char) : (escape text).getLast? = text.getLast? := by
  induction text using signInduction with
  | nil => rfl
  | pair rest ih => simp [escape, List.getLast?_cons, ih]
  | lone rest stops ih => rw [escape_lone stops, List.getLast?_cons, ih, List.getLast?_cons]
  | other c rest other ih =>
      rw [escape_other rest other, List.getLast?_cons, ih, List.getLast?_cons]

theorem getLast?_unescape (text : List Char) : (unescape text).getLast? = text.getLast? := by
  fun_induction unescape text with
  | case1 rest ih => simp [List.getLast?_cons, ih]
  | case2 c rest plain ih => rw [List.getLast?_cons, ih, List.getLast?_cons]
  | case3 => rfl

theorem unescape_sublist (text : List Char) : (unescape text).Sublist text := by
  fun_induction unescape text with
  | case1 rest ih => exact ((ih.cons_cons '#').cons_cons '#').cons '\\'
  | case2 c rest plain ih => exact ih.cons_cons c
  | case3 => exact .slnil

theorem mem_of_mem_escape {text : List Char} {c : Char} (other : c ≠ '\\')
    (member : c ∈ escape text) : c ∈ text := by
  fun_induction escape text with
  | case1 rest ih =>
      simp only [List.mem_cons] at member ⊢
      tauto
  | case2 d rest plain ih =>
      simp only [List.mem_cons] at member ⊢
      tauto
  | case3 => exact member

private theorem length_unescape_le_cons (c : Char) (rest : List Char) :
    (unescape rest).length ≤ (unescape (c :: rest)).length := by
  rw [unescape.eq_def (c :: rest)]
  split
  · next tail split =>
      obtain ⟨-, rfl⟩ := List.cons.inj split
      refine Nat.le_of_eq ?_
      rw [unescape_cons (.inl (by decide)), unescape_cons (.inl (by decide))]
  · next head tail _ split =>
      obtain ⟨-, rfl⟩ := List.cons.inj split
      simp
  · contradiction

/-- A text behind a number sign unescapes to a shorter text than one that holds the sign. -/
theorem length_unescape_lt (front rest : List Char) :
    (unescape rest).length < (unescape (front ++ '#' :: rest)).length := by
  induction front with
  | nil =>
      have kept : unescape ('#' :: rest) = '#' :: unescape rest := unescape_cons (.inl (by decide))
      simp [kept]
  | cons c front ih => exact Nat.lt_of_lt_of_le ih (length_unescape_le_cons c _)

theorem suffix_of_suffix_escape {word text : List Char} (free : '#' ∉ word)
    (ends : word <:+ escape text) : word <:+ text := by
  obtain ⟨front, split⟩ := ends
  have stops : word.head? ≠ some '#' := fun starts => free (List.mem_of_head? starts)
  have joined : unescape front ++ word = text := by
    rw [← unescape_escape text, ← split, unescape_append stops, unescape_eq_self free]
  exact ⟨unescape front, joined⟩

private theorem unescape_eq_self_of_notMem {text : List Char} (free : '#' ∉ unescape text) :
    unescape text = text := by
  fun_induction unescape text with
  | case1 tail ih => exact absurd List.mem_cons_self free
  | case2 c tail plain ih => rw [ih (fun member => free (List.mem_cons_of_mem c member))]
  | case3 => rfl

theorem suffix_of_suffix_unescape {word text : List Char} (free : '#' ∉ word)
    (ends : word <:+ unescape text) : word <:+ text := by
  fun_induction unescape text with
  | case1 tail ih =>
      rcases List.suffix_cons_iff.mp ends with rfl | shorter
      · exact absurd List.mem_cons_self free
      · rcases List.suffix_cons_iff.mp shorter with rfl | shorter
        · exact absurd List.mem_cons_self free
        · exact (ih shorter).trans ⟨['\\', '#', '#'], rfl⟩
  | case2 c tail plain ih =>
      rcases List.suffix_cons_iff.mp ends with rfl | shorter
      · have same : unescape tail = tail :=
          unescape_eq_self_of_notMem (fun member => free (List.mem_cons_of_mem c member))
        exact ⟨[], by rw [List.nil_append, same]⟩
      · exact (ih shorter).trans (List.suffix_cons c tail)
  | case3 => exact ends

theorem suffix_unescape_of_suffix {word text : List Char} (free : '#' ∉ word)
    (ends : word <:+ text) : word <:+ unescape text := by
  obtain ⟨front, rfl⟩ := ends
  have stops : word.head? ≠ some '#' := fun starts => free (List.mem_of_head? starts)
  rw [unescape_append stops, unescape_eq_self free]
  exact List.suffix_append _ _

theorem suffix_escape_of_suffix {word text : List Char} (free : '#' ∉ word)
    (ends : word <:+ text) : word <:+ escape text := by
  obtain ⟨front, rfl⟩ := ends
  cases word with
  | nil => exact List.nil_suffix
  | cons c rest =>
      have other : c ≠ '#' := fun sign => free (by simp [sign])
      rw [escape_append_cons front rest other, escape_eq_self free]
      exact List.suffix_append _ _

end Gleaner.Rule
