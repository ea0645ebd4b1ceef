import Gleaner.Proofs.Regex.Instructions
import Gleaner.Value.Sanitize
import Mathlib.Data.List.Forall2
import Mathlib.Data.List.Infix

/-!
# Narrowing a value again

A value that has been narrowed by a pattern is narrowed again by the same one.  No primitive comes
to hold anything but a part of what it holds, and one stays as it is if the pattern has captured a
whole match that stands alone in its text.
-/

namespace Gleaner

namespace Regex

/-- The first group is the whole match, or takes no part in it. -/
def Found.Whole (found : Found) : Prop :=
  found.group = none ∨ found.group = some (found.start, found.stop)

instance (found : Found) : Decidable found.Whole :=
  inferInstanceAs (Decidable (_ ∨ _))

private theorem whole_shift_iff (found : Found) (count : Nat) :
    (found.shift count).Whole ↔ found.Whole := by
  obtain ⟨start, stop, group⟩ := found
  cases group <;> simp [Found.Whole, Found.shift, Prod.ext_iff]

private theorem slice_infix (text : List Char) (start stop : Nat) :
    slice text start stop <:+: text :=
  (List.drop_suffix start _).isInfix.trans (List.take_prefix stop text).isInfix

namespace Program

variable {program : Program} {text part : List Char} {found : Found}

private theorem infix_of_firstCapture (captured : program.firstCapture text = some part) :
    part <:+: text := by
  obtain ⟨found, -, rfl⟩ := Option.map_eq_some_iff.mp captured
  split <;> exact slice_infix text _ _

private theorem firstCapture_of_whole (search : program.search text = some found)
    (whole : found.Whole) :
    program.firstCapture text = some (slice text found.start found.stop) := by
  rw [firstCapture, search, Option.map_some]
  rcases whole with group | group <;> rw [group]

private theorem firstCapture_slice (search : program.search text = some found) (whole : found.Whole)
    (alone : program.StandsAlone text found) :
    program.firstCapture (slice text found.start found.stop) =
      some (slice text found.start found.stop) := by
  obtain ⟨again, same, shifted⟩ := search_slice search alone
  have start : found.start = again.start + found.start := congrArg Found.start shifted
  have stop : found.stop = again.stop + found.start := congrArg Found.stop shifted
  have whole : again.Whole := (whole_shift_iff again found.start).mp (shifted ▸ whole)
  have all : slice (slice text found.start found.stop) again.start again.stop =
      slice text found.start found.stop := by
    have long : (slice text found.start found.stop).length ≤ again.stop := by
      simp only [slice, List.length_drop, List.length_take]
      omega
    have first : again.start = 0 := by omega
    rw [slice, List.take_of_length_le long, first, List.drop_zero]
  exact (firstCapture_of_whole same whole).trans (congrArg some all)

end Program

end Regex

namespace Pattern

/-- The pattern matches somewhere in the text. -/
def Occurs (pattern : Pattern) (text : String) : Prop :=
  pattern.program.Occurs text.toList

theorem exists_firstCapture_iff {pattern : Pattern} {text : String} :
    (∃ part, pattern.firstCapture text = some part) ↔ pattern.Occurs text := by
  rw [Occurs, ← Regex.Program.exists_search_iff]
  simp [firstCapture, Regex.Program.firstCapture]

theorem firstCapture_eq_none_iff {pattern : Pattern} {text : String} :
    pattern.firstCapture text = none ↔ ¬pattern.Occurs text := by
  rw [← exists_firstCapture_iff, Option.eq_none_iff_forall_ne_some, not_exists]

/-- What is captured is a part of the text. -/
theorem infix_of_firstCapture {pattern : Pattern} {text part : String}
    (captured : pattern.firstCapture text = some part) : part.toList <:+: text.toList := by
  obtain ⟨chars, first, rfl⟩ := Option.map_eq_some_iff.mp captured
  rw [String.toList_ofList]
  exact Regex.Program.infix_of_firstCapture first

/-- The pattern captures whole matches in the text that stand alone, if it captures anything. -/
def Settles (pattern : Pattern) (text : String) : Prop :=
  ∀ found ∈ pattern.program.search text.toList,
    found.Whole ∧ pattern.program.StandsAlone text.toList found

instance (pattern : Pattern) (text : String) : Decidable (pattern.Settles text) :=
  inferInstanceAs (Decidable (∀ found ∈ pattern.program.search text.toList, _))

theorem firstCapture_firstCapture {pattern : Pattern} {text part : String}
    (settles : pattern.Settles text) (captured : pattern.firstCapture text = some part) :
    pattern.firstCapture part = some part := by
  obtain ⟨chars, first, rfl⟩ := Option.map_eq_some_iff.mp captured
  obtain ⟨found, search, -⟩ := Option.map_eq_some_iff.mp first
  obtain ⟨whole, alone⟩ := settles found search
  rw [Regex.Program.firstCapture_of_whole search whole] at first
  obtain rfl := Option.some.inj first
  rw [firstCapture, String.toList_ofList, Regex.Program.firstCapture_slice search whole alone,
    Option.map_some]

-- Standing alone matters: at the start of `ab` the preferred branch matches, in `xab` it does not.
example : (ofSource "^a|ab").toOption.map (fun pattern =>
    (pattern.firstCapture "xab", pattern.firstCapture "ab")) = some (some "ab", some "a") := by
  decide +kernel

/-- A pattern with neither the first group nor conditions captures whole matches, and these stand
alone in every text. -/
theorem settles_of_plain {pattern : Pattern} {expr : Regex.Expr}
    (parsed : Regex.Expr.parse pattern.source.toList = .ok expr) (plain : expr.captures = false)
    (free : expr.looks = []) (text : String) : pattern.Settles text := by
  have program : pattern.program = expr.compile := by
    have compiled := pattern.compiled
    rw [parsed] at compiled
    exact (Except.ok.inj compiled).symm
  intro found search
  rw [program] at search ⊢
  refine ⟨.inl (Regex.Program.group_of_search (Regex.Expr.groupStart_notMem plain) search), ?_⟩
  intro condition member
  have known := Regex.Expr.mem_looks_of_mem_conditions member
  rw [free] at known
  contradiction

end Pattern

/-- How a text, or nothing, comes out of being narrowed by a pattern. -/
inductive Primitive.Narrows (pattern : Pattern) : Primitive → Primitive → Prop
  /-- There is nothing to narrow. -/
  | null : Narrows pattern .null .null
  /-- The pattern matches nowhere, and nothing is left. -/
  | dropped {text} (nowhere : ¬pattern.Occurs text) : Narrows pattern (.string text) .null
  /-- All of the text is captured. -/
  | kept {text} (occurs : pattern.Occurs text) : Narrows pattern (.string text) (.string text)
  /-- Something is cut off in front or at the end. -/
  | shorter {text part : String} {front back : List Char} (occurs : pattern.Occurs text)
      (parts : text.toList = front ++ part.toList ++ back) (cut : front ++ back ≠ []) :
      Narrows pattern (.string text) (.string part)

namespace Primitive

variable {pattern : Pattern} {item : Primitive}

/-- The pattern captures whole matches in the text of the primitive that stand alone. -/
def Settles (item : Primitive) (pattern : Pattern) : Prop :=
  ∀ text ∈ item.toText?, pattern.Settles text

instance (pattern : Pattern) (item : Primitive) : Decidable (item.Settles pattern) :=
  inferInstanceAs (Decidable (∀ text ∈ item.toText?, _))

/-- Narrowing a primitive is narrowing its text. -/
theorem sanitize_eq (pattern : Pattern) (item : Primitive) :
    item.sanitize pattern = .ofOption (item.toText?.bind pattern.firstCapture) := by
  unfold sanitize
  cases item.toText? <;> rfl

theorem narrows_ofOption (pattern : Pattern) (text : Option String) :
    Narrows pattern (.ofOption text) (.ofOption (text.bind pattern.firstCapture)) := by
  cases text with
  | none => exact .null
  | some text =>
      rw [Option.bind_some]
      cases captured : pattern.firstCapture text with
      | none => exact .dropped (Pattern.firstCapture_eq_none_iff.mp captured)
      | some part =>
          have occurs := Pattern.exists_firstCapture_iff.mp ⟨part, captured⟩
          obtain ⟨front, back, parts⟩ := Pattern.infix_of_firstCapture captured
          by_cases cut : front ++ back = []
          · obtain ⟨rfl, rfl⟩ := List.append_eq_nil_iff.mp cut
            rw [List.nil_append, List.append_nil, String.toList_inj] at parts
            rw [parts]
            exact .kept occurs
          · exact .shorter occurs parts.symm cut

theorem toText?_ofOption (text : Option String) : (ofOption text).toText? = text := by
  cases text <;> rfl

theorem narrows_sanitize (pattern : Pattern) (item : Primitive) :
    Narrows pattern (item.sanitize pattern) ((item.sanitize pattern).sanitize pattern) := by
  rw [sanitize_eq pattern (item.sanitize pattern), sanitize_eq, toText?_ofOption]
  exact narrows_ofOption pattern _

theorem sanitize_sanitize (settles : item.Settles pattern) :
    (item.sanitize pattern).sanitize pattern = item.sanitize pattern := by
  rw [sanitize_eq pattern (item.sanitize pattern), sanitize_eq, toText?_ofOption]
  cases captured : item.toText?.bind pattern.firstCapture with
  | none => rfl
  | some part =>
      obtain ⟨text, known, first⟩ := Option.bind_eq_some_iff.mp captured
      exact congrArg ofOption (Pattern.firstCapture_firstCapture (settles text known) first)

end Primitive

namespace Value

/-- The primitives of the value, in order. -/
def items : Value → List Primitive
  | scalar item => [item]
  | sequence items => items

theorem items_sanitize (pattern : Pattern) (value : Value) :
    (value.sanitize pattern).items = value.items.map (Primitive.sanitize pattern) := by
  cases value <;> rfl

/-- Narrowing a value again by a pattern with neither the first group nor conditions changes
nothing. -/
theorem sanitize_sanitize_of_plain {pattern : Pattern} {expr : Regex.Expr}
    (parsed : Regex.Expr.parse pattern.source.toList = .ok expr) (plain : expr.captures = false)
    (free : expr.looks = []) (value : Value) :
    (value.sanitize pattern).sanitize pattern = value.sanitize pattern := by
  have kept (item : Primitive) : (item.sanitize pattern).sanitize pattern = item.sanitize pattern :=
    Primitive.sanitize_sanitize fun text _ => Pattern.settles_of_plain parsed plain free text
  cases value with
  | scalar item => exact congrArg scalar (kept item)
  | sequence items =>
      refine congrArg sequence ?_
      rw [List.map_map]
      exact List.map_congr_left fun item _ => kept item

-- Plain groups and repetitions are allowed.
example : (Regex.Expr.parse "(?:[0-9]+,?)+".toList).toOption.map (fun expr =>
    (expr.captures, expr.looks.length)) = some (false, 0) := by
  decide +kernel

/-- A value that is narrowed again loses the primitives in which the pattern matches nowhere, and of
the others it keeps a part.  It keeps all of those that were captured as whole matches that stand
alone. -/
theorem narrowed_again (pattern : Pattern) (value : Value) :
    List.Forall₂ (Primitive.Narrows pattern) (value.sanitize pattern).items
        ((value.sanitize pattern).sanitize pattern).items ∧
      ∀ (index : Nat) (item : Primitive), value.items[index]? = some item →
        item.Settles pattern →
          ((value.sanitize pattern).sanitize pattern).items[index]? =
            (value.sanitize pattern).items[index]? := by
  rw [items_sanitize pattern (value.sanitize pattern)]
  constructor
  · rw [items_sanitize, List.forall₂_map_left_iff, List.forall₂_map_right_iff,
      List.forall₂_map_right_iff, List.forall₂_same]
    exact fun item _ => item.narrows_sanitize pattern
  · intro index item there settles
    rw [List.getElem?_map, items_sanitize, List.getElem?_map, there]
    exact congrArg some (Primitive.sanitize_sanitize settles)

/-- Word boundaries at the ends of a number are there without the text around it too. -/
theorem narrowed_again_between_boundaries :
    ∃ pattern, Pattern.ofSource "\\b([0-9]+)\\b" = .ok pattern ∧
      let value := sequence [.null, .string "a1 22 b", .string "no"]
      value.items[1]? = some (.string "a1 22 b") ∧
        Primitive.Settles (.string "a1 22 b") pattern ∧
        (value.sanitize pattern).items[1]? = some (.string "22") ∧
        ((value.sanitize pattern).sanitize pattern).items[1]? = some (.string "22") := by
  have evaluated : ((Pattern.ofSource "\\b([0-9]+)\\b").toOption.any fun pattern => decide (
      Primitive.Settles (.string "a1 22 b") pattern ∧
      ((sequence [.null, .string "a1 22 b", .string "no"]).sanitize pattern).items[1]? =
        some (.string "22"))) = true := by
    decide +kernel
  cases compiled : Pattern.ofSource "\\b([0-9]+)\\b" with
  | error cause => simp [compiled, Except.toOption] at evaluated
  | ok pattern =>
      rw [compiled] at evaluated
      obtain ⟨settles, once⟩ := of_decide_eq_true evaluated
      have kept := (narrowed_again pattern (sequence [.null, .string "a1 22 b", .string "no"])).2 1
        (.string "a1 22 b") rfl settles
      exact ⟨pattern, rfl, rfl, settles, once, kept.trans once⟩

/-- A pattern that cuts off what stands in front of its group cuts again. -/
theorem narrowed_again_shorter :
    ∃ pattern, Pattern.ofSource "/(.+)" = .ok pattern ∧
      let once := (scalar (.string "/a/b/c")).sanitize pattern
      let twice := once.sanitize pattern
      once = scalar (.string "a/b/c") ∧ twice = scalar (.string "b/c") ∧
        ¬ List.Forall₂ (fun before after => after = before ∨ after = .null) once.items
          twice.items := by
  have evaluated : ((Pattern.ofSource "/(.+)").toOption.any fun pattern => decide (
      (scalar (.string "/a/b/c")).sanitize pattern = scalar (.string "a/b/c") ∧
      (scalar (.string "a/b/c")).sanitize pattern = scalar (.string "b/c"))) = true := by
    decide +kernel
  cases compiled : Pattern.ofSource "/(.+)" with
  | error cause => simp [compiled, Except.toOption] at evaluated
  | ok pattern =>
      rw [compiled] at evaluated
      obtain ⟨once, twice⟩ := of_decide_eq_true evaluated
      refine ⟨pattern, rfl, once, once ▸ twice, ?_⟩
      rw [once, twice]
      simp [items]

end Value

end Gleaner
