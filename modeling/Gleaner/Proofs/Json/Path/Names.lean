import Gleaner.Proofs.Json.Path.Grammar
import Mathlib.Data.List.Induction

/-!
# Names inside paths

A name in a path is bare or stands in quotes between brackets.  A word without dots, brackets and
quotation marks that stands in a path stands inside one of its names.
-/

namespace Gleaner.Json

/-- What stands in front of the text that spells a path behind its root. -/
inductive PathStart : List Char → List Char → Prop
  | rooted {text} : PathStart ['$'] text
  | rootless {text} (unrooted : text.head? ≠ some '$') : PathStart [] text

/-- The texts that a bare name can start behind. -/
inductive NameStart : List Char → Prop
  | first : NameStart []
  | rooted : NameStart ['$']
  | dotted {text path} (front : PathSpelling text path) : NameStart (text ++ ['.'])

/-- The word `inside` stands in a bare name, between `before` and `after`. -/
inductive InBareName : List Char → List Char → List Char → Prop
  | intro {front left inside right back path} (start : NameStart front)
      (bare : Bare (left ++ inside ++ right)) (behind : StepsSpelling back path) :
      InBareName (front ++ left) inside (right ++ back)

/-- The word `inside` stands in a name in quotes and brackets, between `before` and `after`. -/
inductive InQuotedName : List Char → List Char → List Char → Prop
  | intro {front left inside right back mark path more} (front_spelt : PathSpelling front path)
      (quote : mark = '\'' ∨ mark = '"') (closed : mark ∉ left ++ inside ++ right)
      (behind : StepsSpelling back more) :
      InQuotedName (front ++ '[' :: mark :: left) inside (right ++ mark :: ']' :: back)

/-- A word that can only stand inside a name: none of its characters has a meaning of its own. -/
structure Inner (word : List Char) : Prop where
  /-- There is something to stand there. -/
  nonempty : word ≠ []
  /-- No dot and no bracket. -/
  bare : ∀ c ∈ word, c ≠ '.' ∧ c ≠ '[' ∧ c ≠ ']'
  /-- No quotation mark. -/
  unquoted : '\'' ∉ word ∧ '"' ∉ word
  /-- No root, no wildcard and no part of a number. -/
  wordlike : ∀ c ∈ word, c ≠ '$' ∧ c ≠ '*' ∧ c ≠ '+' ∧ c ≠ '-' ∧ c.isDigit = false

section

variable {before inside after rest front back text word : List Char} {path more : Path} {c : Char}

/-! ## Words in texts put together -/

private theorem exists_of_cons_split (nonempty : inside ≠ []) (absent : c ∉ inside)
    (split : c :: rest = before ++ (inside ++ after)) :
    ∃ tail, before = c :: tail ∧ rest = tail ++ (inside ++ after) := by
  cases before with
  | nil =>
      obtain ⟨d, word, rfl⟩ := List.exists_cons_of_ne_nil nonempty
      obtain ⟨rfl, -⟩ := List.cons.inj split
      exact absurd List.mem_cons_self absent
  | cons d tail =>
      obtain ⟨rfl, same⟩ := List.cons.inj split
      exact ⟨tail, rfl, same⟩

private theorem exists_of_concat_split (nonempty : inside ≠ []) (absent : c ∉ inside)
    (split : rest ++ [c] = before ++ (inside ++ after)) :
    ∃ tail, after = tail ++ [c] ∧ rest = before ++ (inside ++ tail) := by
  cases after using List.reverseRecOn with
  | nil =>
      have last : (before ++ (inside ++ [])).getLast? = some c := by
        rw [← split, List.getLast?_concat]
      rw [List.append_nil, List.getLast?_append, List.getLast?_eq_some_getLast nonempty,
        Option.some_or, Option.some.injEq] at last
      exact absurd (last ▸ List.getLast_mem nonempty) absent
  | append_singleton tail d =>
      have ends : rest ++ [c] = (before ++ (inside ++ tail)) ++ [d] := by simpa using split
      obtain ⟨same, last⟩ := List.append_inj' ends rfl
      obtain rfl : c = d := by simpa using last
      exact ⟨tail, rfl, same⟩

/-- A word that stands in two texts put together, and that lacks the character which the second
starts with, stands wholly in one of them. -/
private theorem exists_of_append_split (nonempty : inside ≠ [])
    (absent : ∀ c, text.head? = some c → c ∉ inside)
    (split : word ++ text = before ++ (inside ++ after)) :
    (∃ tail, before = word ++ tail ∧ text = tail ++ (inside ++ after)) ∨
      ∃ tail, after = tail ++ text ∧ word = before ++ (inside ++ tail) := by
  obtain ⟨middle, rfl, same⟩ | ⟨middle, rfl, same⟩ := List.append_eq_append_iff.mp split
  · exact .inl ⟨middle, rfl, same⟩
  · obtain ⟨tail, rfl, behind⟩ | ⟨tail, rfl, behind⟩ := List.append_eq_append_iff.mp same
    · exact .inr ⟨tail, behind, rfl⟩
    · cases tail with
      | nil => exact .inr ⟨[], by simpa using behind.symm, by simp⟩
      | cons d tail =>
          obtain rfl : text = d :: (tail ++ after) := behind
          exact absurd (by simp) (absent d rfl)

/-! ## Words in steps -/

theorem Numeral.forall_mem {position : Int} (numeral : Numeral word position) :
    ∀ c ∈ word, c = '+' ∨ c = '-' ∨ c.isDigit = true := by
  cases numeral with
  | zero => simp
  | plain magnitude fits => exact fun c member => .inr (.inr (magnitude.2.2 c member))
  | plus magnitude fits =>
      rw [List.forall_mem_cons]
      exact ⟨.inl rfl, fun c member => .inr (.inr (magnitude.2.2 c member))⟩
  | minus magnitude fits =>
      rw [List.forall_mem_cons]
      exact ⟨.inr (.inl rfl), fun c member => .inr (.inr (magnitude.2.2 c member))⟩

theorem StepsSpelling.single {step : Step} (spelt : StepSpelling word step) :
    StepsSpelling word [step] := by
  simpa using StepsSpelling.cons spelt .nil

theorem RelativeSpelling.name (bare : Bare word) :
    RelativeSpelling word [.key (String.ofList word)] := by
  simpa using RelativeSpelling.named bare .nil

private theorem Inner.notMem_of_stops (inner : Inner inside) (stops : Stops text) :
    ∀ c, text.head? = some c → c ∉ inside := by
  intro c starts member
  have name : isBareChar c = true := (isBareChar_eq_true_iff c).mpr (inner.bare c member)
  simp [stops c starts] at name

private theorem exists_of_bracket_split {step : Step} (inner : Inner inside)
    (spelt : BracketSpelling word step) (split : word = before ++ (inside ++ after)) :
    ∃ mark left right, before = mark :: left ∧ after = right ++ [mark] ∧
      (mark = '\'' ∨ mark = '"') ∧ mark ∉ left ++ inside ++ right := by
  obtain ⟨c, tail, same⟩ := List.exists_cons_of_ne_nil inner.nonempty
  have member : c ∈ inside := by simp [same]
  have there : c ∈ word := by simp [split, member]
  obtain ⟨-, star, plus, minus, digit⟩ := inner.wordlike c member
  cases spelt with
  | wildcard => exact absurd (by simpa using there) star
  | index numeral =>
      have number := numeral.forall_mem c there
      simp [plus, minus, digit] at number
  | @quoted mark name quote closed =>
      have absent : mark ∉ inside := by
        rcases quote with rfl | rfl
        · exact inner.unquoted.1
        · exact inner.unquoted.2
      obtain ⟨left, rfl, behind⟩ := exists_of_cons_split inner.nonempty absent split
      obtain ⟨right, rfl, rfl⟩ := exists_of_concat_split inner.nonempty absent behind
      exact ⟨mark, left, right, rfl, rfl, quote, by simpa using closed⟩

private theorem in_name_of_step {step : Step} (inner : Inner inside)
    (front_spelt : PathSpelling front path) (spelt : StepSpelling word step)
    (behind : StepsSpelling back more)
    (split : word = before ++ (inside ++ after)) :
    InQuotedName (front ++ before) inside (after ++ back) ∨
      InBareName (front ++ before) inside (after ++ back) := by
  have dot : '.' ∉ inside := fun member => (inner.bare _ member).1 rfl
  have opening : '[' ∉ inside := fun member => (inner.bare _ member).2.1 rfl
  have closing : ']' ∉ inside := fun member => (inner.bare _ member).2.2 rfl
  cases spelt with
  | dot bare =>
      obtain ⟨left, rfl, rfl⟩ := exists_of_cons_split inner.nonempty dot split
      have start : NameStart (front ++ ['.']) := .dotted front_spelt
      have whole : Bare (left ++ inside ++ after) := by simpa using bare
      refine .inr ?_
      simpa using InBareName.intro start whole behind
  | bracket between =>
      obtain ⟨tail, rfl, rest⟩ := exists_of_cons_split inner.nonempty opening split
      obtain ⟨tail', rfl, word⟩ := exists_of_concat_split inner.nonempty closing rest
      obtain ⟨mark, left, right, rfl, rfl, quote, closed⟩ :=
        exists_of_bracket_split inner between word
      refine .inl ?_
      simpa using InQuotedName.intro front_spelt quote closed behind

/-! ## Words in paths -/

private theorem in_name_of_steps (inner : Inner inside) (front_spelt : PathSpelling front path)
    (spelt : StepsSpelling text more) (split : text = before ++ (inside ++ after)) :
    InQuotedName (front ++ before) inside after ∨ InBareName (front ++ before) inside after := by
  -- What stands in front grows by each step that the word lies behind.
  induction spelt generalizing front path before with
  | nil =>
      have empty : inside = [] :=
        (List.append_eq_nil_iff.mp (List.append_eq_nil_iff.mp split.symm).2).1
      exact absurd empty inner.nonempty
  | cons first rest ih =>
      have absent := inner.notMem_of_stops rest.stops
      obtain ⟨tail, rfl, same⟩ | ⟨tail, rfl, same⟩ :=
        exists_of_append_split inner.nonempty absent split
      · have longer := front_spelt.append (.single first)
        simpa using ih longer same
      · exact in_name_of_step inner front_spelt first rest same

theorem PathSpelling.exists_start (spelt : PathSpelling text path) :
    ∃ front rest, text = front ++ rest ∧ PathStart front rest ∧ RelativeSpelling rest path := by
  cases spelt with
  | rooted behind => exact ⟨['$'], _, rfl, .rooted, behind⟩
  | rootless unrooted whole => exact ⟨[], _, rfl, .rootless unrooted, whole⟩

theorem PathStart.nameStart (start : PathStart front text) : NameStart front := by
  cases start with
  | rooted => exact .rooted
  | rootless _ => exact .first

theorem PathStart.spelling_nil (start : PathStart front text) : PathSpelling front [] := by
  cases start with
  | rooted => exact .rooted (.steps .nil)
  | rootless _ => exact .rootless (by simp) (.steps .nil)

theorem PathStart.spelling_name (start : PathStart front (word ++ text)) (bare : Bare word) :
    PathSpelling (front ++ word) [.key (String.ofList word)] := by
  cases start with
  | rooted => exact .rooted (.name bare)
  | rootless unrooted =>
      obtain ⟨c, tail, rfl⟩ := List.exists_cons_of_ne_nil bare.1
      exact .rootless unrooted (.name bare)

private theorem in_name_of_relative (inner : Inner inside) (start : PathStart front text)
    (spelt : RelativeSpelling text path) (split : text = before ++ (inside ++ after)) :
    InQuotedName (front ++ before) inside after ∨ InBareName (front ++ before) inside after := by
  cases spelt with
  | steps steps => exact in_name_of_steps inner start.spelling_nil steps split
  | @named name text more bare steps =>
      have absent := inner.notMem_of_stops steps.stops
      obtain ⟨tail, rfl, same⟩ | ⟨tail, rfl, rfl⟩ :=
        exists_of_append_split inner.nonempty absent split
      · simpa using in_name_of_steps inner (start.spelling_name bare) steps same
      · have whole : Bare (before ++ inside ++ tail) := by simpa using bare
        exact .inr (.intro start.nameStart whole steps)

/-- A word without characters of their own meaning that stands in a path stands in a name. -/
theorem in_name_of_path (inner : Inner inside) (spelt : PathSpelling text path)
    (split : text = before ++ (inside ++ after)) :
    InQuotedName before inside after ∨ InBareName before inside after := by
  obtain ⟨front, rest, rfl, start, behind⟩ := spelt.exists_start
  cases start with
  | rooted =>
      have root : '$' ∉ inside := fun member => (inner.wordlike _ member).1 rfl
      obtain ⟨tail, rfl, same⟩ := exists_of_cons_split inner.nonempty root split
      exact in_name_of_relative inner .rooted behind same
  | rootless unrooted => exact in_name_of_relative inner (.rootless unrooted) behind split

theorem InQuotedName.bracket_mem (quoted : InQuotedName before inside after) : '[' ∈ before := by
  cases quoted with
  | intro front_spelt quote closed behind => simp

/-- Behind a bracket a bare name needs a dot. -/
theorem InBareName.dot_mem (named : InBareName before inside after) (bracket : '[' ∈ before) :
    '.' ∈ before := by
  cases named with
  | @intro front left inside right back path start bare behind =>
      have absent : '[' ∉ left := fun member => (bare.2 '[' (by simp [member])).2.1 rfl
      have inside_front : '[' ∈ front := (List.mem_append.mp bracket).resolve_right absent
      cases start with
      | first => simp at inside_front
      | rooted => simp at inside_front
      | dotted front_spelt => simp

end

end Gleaner.Json
