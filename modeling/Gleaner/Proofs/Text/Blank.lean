import Gleaner.Text.Blank
import Gleaner.Text.Bytes
import Gleaner.Text.Search
import Mathlib.Data.List.Infix
import Mathlib.Data.List.TakeWhile

/-!
# Trimming

A trimmed text is what is left of a text between the blanks at its ends: it neither starts nor
ends with a blank, and trimming it again changes nothing.
-/

namespace Gleaner.Text

/-- No printed character of ASCII is blank. -/
theorem toNat_of_isBlank {c : Char} (blank : isBlank c = true) : c.toNat ≤ 32 ∨ 133 ≤ c.toNat := by
  simp only [isBlank, Bool.or_eq_true, Bool.and_eq_true, decide_eq_true_eq, beq_iff_eq] at blank
  omega

theorem isDigit_of_isBlank {c : Char} (blank : isBlank c = true) : c.isDigit = false := by
  have bounds := toNat_of_isBlank blank
  have range : c.isDigit = (decide (48 ≤ c.val) && decide (c.val ≤ 57)) := rfl
  simp only [range, Bool.and_eq_false_iff, decide_eq_false_iff_not, UInt32.le_iff_toNat_le]
  simp
  omega

theorem endsWith_iff (word text : List Char) : endsWith word text = true ↔ word <:+ text := by
  rw [endsWith, List.isPrefixOf_iff_prefix, List.reverse_prefix]

private theorem trimStart_suffix_self (text : List Char) : trimStart text <:+ text :=
  List.dropWhile_suffix _

theorem trimEnd_prefix_self (text : List Char) : trimEnd text <+: text := by
  rw [← List.reverse_suffix, trimEnd, List.reverse_reverse]
  exact List.dropWhile_suffix _

theorem trim_infix_self (text : List Char) : trim text <:+: text :=
  (trimEnd_prefix_self _).isInfix.trans (trimStart_suffix_self text).isInfix

/-- Only blanks are taken off the start. -/
theorem exists_blanks_append_trimStart (text : List Char) :
    ∃ blanks, text = blanks ++ trimStart text ∧ ∀ c ∈ blanks, isBlank c = true :=
  ⟨text.takeWhile isBlank, List.takeWhile_append_dropWhile.symm,
    fun _ member => List.mem_takeWhile_imp member⟩

/-- Only blanks are taken off the end. -/
theorem exists_trimEnd_append_blanks (text : List Char) :
    ∃ blanks, text = trimEnd text ++ blanks ∧ ∀ c ∈ blanks, isBlank c = true := by
  obtain ⟨blanks, split, blank⟩ := exists_blanks_append_trimStart text.reverse
  refine ⟨blanks.reverse, ?_, by simpa using blank⟩
  have turned := congrArg List.reverse split
  rwa [List.reverse_append, List.reverse_reverse] at turned

theorem trimStart_append {blanks text : List Char} (blank : ∀ c ∈ blanks, isBlank c = true) :
    trimStart (blanks ++ text) = trimStart text :=
  List.dropWhile_append_of_pos blank

private theorem head?_trimStart {text : List Char} {c : Char}
    (starts : (trimStart text).head? = some c) : isBlank c = false := by
  have bare := List.head?_dropWhile_not isBlank text
  rwa [← trimStart, starts] at bare

private theorem getLast?_trimEnd {text : List Char} {c : Char}
    (ends : (trimEnd text).getLast? = some c) : isBlank c = false := by
  rw [trimEnd, List.getLast?_reverse] at ends
  simpa [ends] using List.head?_dropWhile_not isBlank text.reverse

theorem trimStart_eq_self {text : List Char}
    (bare : ∀ c, text.head? = some c → isBlank c = false) : trimStart text = text := by
  cases text with
  | nil => rfl
  | cons c rest => simp [trimStart, bare c rfl]

theorem trimEnd_eq_self {text : List Char}
    (bare : ∀ c, text.getLast? = some c → isBlank c = false) : trimEnd text = text := by
  have same : trimStart text.reverse = text.reverse := trimStart_eq_self (by simpa using bare)
  rw [trimEnd, ← trimStart, same, List.reverse_reverse]

theorem trimEnd_append_suffix (front text : List Char) :
    trimEnd text <:+ trimEnd (front ++ text) := by
  rw [← List.reverse_prefix, trimEnd, trimEnd, List.reverse_reverse, List.reverse_reverse,
    List.reverse_append, List.dropWhile_append]
  split
  · next empty => simp [List.isEmpty_iff.mp empty]
  · exact List.prefix_append _ _

/-- Only blanks behind the last other character are taken off the end. -/
theorem trimEnd_append_cons {c : Char} (bare : isBlank c = false) (front rest : List Char) :
    trimEnd (front ++ c :: rest) = front ++ c :: trimEnd rest := by
  have turned : (front ++ c :: rest).reverse = rest.reverse ++ c :: front.reverse := by simp
  rw [trimEnd, turned, List.dropWhile_append, trimEnd]
  split
  · next empty => simp [List.isEmpty_iff.mp empty, bare]
  · simp

theorem trim_append_cons {c : Char} (bare : isBlank c = false) {front : List Char}
    (first : ∀ d, (front ++ [c]).head? = some d → isBlank d = false) (rest : List Char) :
    trim (front ++ c :: rest) = front ++ c :: trimEnd rest := by
  have starts : trimStart (front ++ c :: rest) = front ++ c :: rest := by
    refine trimStart_eq_self fun d head => first d ?_
    simpa using head
  rw [trim, starts, trimEnd_append_cons bare]

theorem trim_cons_ne_nil {c : Char} (bare : isBlank c = false) (rest : List Char) :
    trim (c :: rest) ≠ [] := by
  have kept : trim ([] ++ c :: rest) = [] ++ c :: trimEnd rest :=
    trim_append_cons bare (by simp [bare]) rest
  simp [show trim (c :: rest) = c :: trimEnd rest from kept]

/-- Nothing is left of a text exactly when it has only blanks. -/
theorem trim_eq_nil_iff (text : List Char) :
    trim text = [] ↔ ∀ c ∈ text, isBlank c = true := by
  constructor
  · intro empty
    have blank : ∀ c ∈ trimStart text, isBlank c = true := by
      simpa [trim, trimEnd] using empty
    have starts : trimStart text = [] := by
      cases split : trimStart text with
      | nil => rfl
      | cons c rest =>
          have bare : isBlank c = false := head?_trimStart (by rw [split, List.head?_cons])
          simp [blank c (by simp [split])] at bare
    exact List.dropWhile_eq_nil_iff.mp starts
  · intro blank
    have starts : trimStart text = [] := List.dropWhile_eq_nil_iff.mpr blank
    rw [trim, starts]
    rfl

/-- A text without blanks at its ends. -/
def Trimmed (text : List Char) : Prop :=
  trim text = text

theorem trimmed_of_bare {text : List Char} (first : ∀ c, text.head? = some c → isBlank c = false)
    (last : ∀ c, text.getLast? = some c → isBlank c = false) : Trimmed text := by
  rw [Trimmed, trim, trimStart_eq_self first, trimEnd_eq_self last]

/-- A text from which trimming takes no byte is trimmed. -/
theorem trimmed_of_byteLength {text : List Char}
    (bytes : byteLength (trim text) = byteLength text) : Trimmed text := by
  obtain ⟨front, back, split⟩ := trim_infix_self text
  have lengths := congrArg byteLength split
  simp only [byteLength_append] at lengths
  have none_in_front : byteLength front = byteLength [] := by
    rw [byteLength]
    omega
  have whole : front ++ (trim text ++ back) = [] ++ text := by
    rwa [← List.append_assoc]
  obtain ⟨-, behind⟩ := append_inj_of_byteLength whole none_in_front
  have kept : trim text ++ back = text ++ [] := by
    rwa [List.append_nil]
  exact (append_inj_of_byteLength kept bytes).1

theorem Trimmed.getLast?_ne {text : List Char} (trimmed : Trimmed text) {c : Char}
    (blank : isBlank c = true) : text.getLast? ≠ some c := by
  intro ends
  rw [← trimmed, trim] at ends
  simp [getLast?_trimEnd ends] at blank

theorem Trimmed.trimEnd_eq {text : List Char} (trimmed : Trimmed text) : trimEnd text = text := by
  refine trimEnd_eq_self fun c ends => ?_
  by_contra blank
  exact trimmed.getLast?_ne (by simpa using blank) ends

theorem trimmed_trim (text : List Char) : Trimmed (trim text) := by
  have starts : trimStart (trim text) = trim text := by
    refine trimStart_eq_self fun c first => ?_
    obtain ⟨rest, same⟩ := trimEnd_prefix_self (trimStart text)
    have first_of_text : (trimStart text).head? = some c := by
      rw [← same, List.head?_append]
      simp [show (trimEnd (trimStart text)).head? = some c from first]
    exact head?_trimStart first_of_text
  rw [Trimmed, trim, starts]
  exact trimEnd_eq_self fun c ends => getLast?_trimEnd ends

end Gleaner.Text
