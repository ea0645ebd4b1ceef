import Gleaner.Query
import Mathlib.Data.List.TakeWhile

/-!
# The texts that spell paths

A path is spelt as an optional `$`, an optional bare name and any number of steps.  A text is read
as a path exactly when it spells that path.
-/

namespace Gleaner.Json

/-- A name that needs no quotes: not empty, and without dots and brackets. -/
def Bare (name : List Char) : Prop :=
  name ≠ [] ∧ ∀ c ∈ name, c ≠ '.' ∧ c ≠ '[' ∧ c ≠ ']'

/-- Decimal digits of which the first is not zero. -/
def Magnitude (digits : List Char) : Prop :=
  digits ≠ [] ∧ digits.head? ≠ some '0' ∧ ∀ c ∈ digits, c.isDigit = true

/-- The number fits in 64 bits. -/
def Fits (position : Int) : Prop :=
  minIndex ≤ position ∧ position ≤ maxIndex

/-- The text spells the number of an element. -/
inductive Numeral : List Char → Int → Prop
  | zero : Numeral ['0'] 0
  | plain {digits} (magnitude : Magnitude digits) (fits : Fits (Text.decimalNumber digits)) :
      Numeral digits (Text.decimalNumber digits)
  | plus {digits} (magnitude : Magnitude digits) (fits : Fits (Text.decimalNumber digits)) :
      Numeral ('+' :: digits) (Text.decimalNumber digits)
  | minus {digits} (magnitude : Magnitude digits) (fits : Fits (-Text.decimalNumber digits)) :
      Numeral ('-' :: digits) (-Text.decimalNumber digits)

/-- The text spells the step between brackets. -/
inductive BracketSpelling : List Char → Step → Prop
  | wildcard : BracketSpelling ['*'] .wildcard
  | index {text position} (numeral : Numeral text position) :
      BracketSpelling text (.index position)
  | quoted {mark name} (quote : mark = '\'' ∨ mark = '"') (closed : mark ∉ name) :
      BracketSpelling (mark :: (name ++ [mark])) (.key (String.ofList name))

/-- The text spells the step. -/
inductive StepSpelling : List Char → Step → Prop
  | dot {name} (bare : Bare name) : StepSpelling ('.' :: name) (.key (String.ofList name))
  | bracket {text step} (inside : BracketSpelling text step) :
      StepSpelling ('[' :: (text ++ [']'])) step

/-- The text spells the steps one after the other. -/
inductive StepsSpelling : List Char → Path → Prop
  | nil : StepsSpelling [] []
  | cons {word text step path} (first : StepSpelling word step) (rest : StepsSpelling text path) :
      StepsSpelling (word ++ text) (step :: path)

/-- The text spells the path behind its root. -/
inductive RelativeSpelling : List Char → Path → Prop
  | steps {text path} (steps : StepsSpelling text path) : RelativeSpelling text path
  | named {name text path} (bare : Bare name) (steps : StepsSpelling text path) :
      RelativeSpelling (name ++ text) (.key (String.ofList name) :: path)

/-- The text spells the path; a `$` at its start is the root. -/
inductive PathSpelling : List Char → Path → Prop
  | rooted {text path} (behind : RelativeSpelling text path) : PathSpelling ('$' :: text) path
  | rootless {text path} (unrooted : text.head? ≠ some '$') (whole : RelativeSpelling text path) :
      PathSpelling text path

/-! ## Runs of characters -/

private theorem while_iff (test : Char → Bool) (text run rest : List Char) :
    text.takeWhile test = run ∧ text.dropWhile test = rest ↔
      text = run ++ rest ∧ (∀ c ∈ run, test c = true) ∧
        ∀ c, rest.head? = some c → test c = false := by
  constructor
  · rintro ⟨rfl, rfl⟩
    refine ⟨List.takeWhile_append_dropWhile.symm, fun c => List.mem_takeWhile_imp,
      fun c starts => ?_⟩
    have stops := List.head?_dropWhile_not test text
    rwa [starts] at stops
  · rintro ⟨rfl, inside, stops⟩
    have ends : rest.takeWhile test = [] ∧ rest.dropWhile test = rest := by
      cases rest with
      | nil => exact ⟨rfl, rfl⟩
      | cons c rest => simp [stops c rfl]
    rw [List.takeWhile_append_of_pos inside, List.dropWhile_append_of_pos inside, ends.1, ends.2]
    exact ⟨List.append_nil run, rfl⟩

/-- No bare name goes on into the text. -/
def Stops (text : List Char) : Prop :=
  ∀ c, text.head? = some c → isBareChar c = false

/-- No number goes on into the text. -/
def Ends (text : List Char) : Prop :=
  ∀ c, text.head? = some c → c.isDigit = false

section

variable {text word rest : List Char}

theorem isBareChar_eq_true_iff (c : Char) :
    isBareChar c = true ↔ c ≠ '.' ∧ c ≠ '[' ∧ c ≠ ']' := by
  simp [isBareChar, and_assoc]

theorem takeBare?_eq_some_iff {name : String} :
    takeBare? text = some (name, rest) ↔
      ∃ word, text = word ++ rest ∧ Bare word ∧ name = String.ofList word ∧ Stops rest := by
  constructor
  · intro found
    unfold takeBare? at found
    split at found
    · contradiction
    · next nonempty =>
        obtain ⟨rfl, rfl⟩ := Prod.mk.inj (Option.some.inj found)
        obtain ⟨parts, inside, stops⟩ := (while_iff isBareChar text _ _).mp ⟨rfl, rfl⟩
        have bare c mem := (isBareChar_eq_true_iff c).mp (inside c mem)
        exact ⟨_, parts, ⟨nonempty, bare⟩, rfl, stops⟩
  · rintro ⟨word, rfl, ⟨nonempty, bare⟩, rfl, stops⟩
    have inside c mem := (isBareChar_eq_true_iff c).mpr (bare c mem)
    have run := (while_iff isBareChar _ word rest).mpr ⟨rfl, inside, stops⟩
    unfold takeBare?
    rw [run.1, run.2]
    split
    · contradiction
    · rfl

theorem takeBare?_eq_none_iff : takeBare? text = none ↔ Stops text := by
  unfold takeBare?
  cases text with
  | nil => simp [Stops]
  | cons c text => cases test : isBareChar c <;> simp [Stops, test]

/-! ## Numbers -/

private theorem Magnitude.not_head (magnitude : Magnitude word) {c : Char}
    (other : c.isDigit = false) : word.head? ≠ some c := by
  intro starts
  have digit := magnitude.2.2 c (List.mem_of_head? starts)
  exact absurd digit (by simp [other])

theorem takeDigits?_eq_some_iff {negative : Bool} {position : Int} :
    takeDigits? negative text = some (position, rest) ↔
      ∃ digits, text = digits ++ rest ∧ Magnitude digits ∧ Fits position ∧ Ends rest ∧
        position = if negative then -(Text.decimalNumber digits : Int)
          else Text.decimalNumber digits := by
  constructor
  · intro found
    obtain ⟨parts, inside, ends⟩ := (while_iff Char.isDigit text _ _).mp ⟨rfl, rfl⟩
    unfold takeDigits? at found
    split at found
    · contradiction
    · contradiction
    · next nonempty leading =>
        obtain ⟨fits, same⟩ := Option.ite_none_right_eq_some.mp found
        obtain ⟨rfl, rfl⟩ := Prod.mk.inj (Option.some.inj same)
        refine ⟨_, parts, ⟨nonempty, fun zero => ?_, inside⟩, fits, ends, rfl⟩
        obtain ⟨tail, starts⟩ := List.head?_eq_some_iff.mp zero
        exact leading tail starts
  · rintro ⟨digits, rfl, ⟨nonempty, leading, inside⟩, fits, ends, rfl⟩
    have run := (while_iff Char.isDigit _ digits rest).mpr ⟨rfl, inside, ends⟩
    unfold takeDigits?
    rw [run.1, run.2]
    split
    · contradiction
    · exact absurd rfl leading
    · exact if_pos fits

theorem Numeral.read {position : Int} (numeral : Numeral word position) (ends : Ends rest) :
    takeIndex? (word ++ rest) = some (position, rest) := by
  cases numeral with
  | zero => rfl
  | plain magnitude fits =>
      have read : takeDigits? false (word ++ rest) = some (_, rest) :=
        takeDigits?_eq_some_iff.mpr ⟨word, rfl, magnitude, fits, ends, rfl⟩
      obtain ⟨c, digits, rfl⟩ := List.exists_cons_of_ne_nil magnitude.1
      have plus := magnitude.not_head (c := '+') rfl
      have minus := magnitude.not_head (c := '-') rfl
      have zero := magnitude.2.1
      unfold takeIndex?
      split
      all_goals simp_all
  | plus magnitude fits =>
      exact takeDigits?_eq_some_iff.mpr ⟨_, rfl, magnitude, fits, ends, rfl⟩
  | minus magnitude fits =>
      exact takeDigits?_eq_some_iff.mpr ⟨_, rfl, magnitude, fits, ends, rfl⟩

private theorem numeral_of_takeIndex? {position : Int}
    (found : takeIndex? text = some (position, rest)) :
    ∃ word, text = word ++ rest ∧ Numeral word position := by
  unfold takeIndex? at found
  split at found
  · obtain ⟨rfl, rfl⟩ := Prod.mk.inj (Option.some.inj found)
    exact ⟨['0'], rfl, .zero⟩
  · obtain ⟨digits, rfl, magnitude, fits, -, rfl⟩ := takeDigits?_eq_some_iff.mp found
    exact ⟨'+' :: digits, rfl, .plus magnitude fits⟩
  · obtain ⟨digits, rfl, magnitude, fits, -, rfl⟩ := takeDigits?_eq_some_iff.mp found
    exact ⟨'-' :: digits, rfl, .minus magnitude fits⟩
  · obtain ⟨digits, rfl, magnitude, fits, -, rfl⟩ := takeDigits?_eq_some_iff.mp found
    exact ⟨digits, rfl, .plain magnitude fits⟩

theorem Numeral.head_ne {position : Int} (numeral : Numeral word position) (rest : List Char)
    {c : Char} (other : c.isDigit = false) (unsigned : c ≠ '+' ∧ c ≠ '-') :
    (word ++ rest).head? ≠ some c := by
  cases numeral with
  | zero => rintro ⟨⟩; contradiction
  | plain magnitude fits =>
      obtain ⟨d, digits, rfl⟩ := List.exists_cons_of_ne_nil magnitude.1
      exact magnitude.not_head other
  | plus magnitude fits => simpa using unsigned.1.symm
  | minus magnitude fits => simpa using unsigned.2.symm

/-! ## Steps -/

theorem takeQuoted?_eq_some_iff {name : String} :
    takeQuoted? text = some (name, rest) ↔
      ∃ mark word, text = mark :: (word ++ mark :: rest) ∧ (mark = '\'' ∨ mark = '"') ∧
        mark ∉ word ∧ name = String.ofList word := by
  constructor
  · intro found
    unfold takeQuoted? at found
    split at found
    · contradiction
    · next mark text =>
        obtain ⟨parts, inside, stops⟩ := (while_iff (· != mark) text _ _).mp ⟨rfl, rfl⟩
        split at found
        · next quote =>
            split at found
            · contradiction
            · next c after behind =>
                obtain ⟨rfl, rfl⟩ := Prod.mk.inj (Option.some.inj found)
                rw [behind] at parts stops
                obtain rfl : c = mark := by simpa using stops c rfl
                refine ⟨c, _, congrArg _ parts, by simpa using quote, fun mem => ?_, rfl⟩
                simpa using inside c mem
        · contradiction
  · rintro ⟨mark, word, rfl, quote, closed, rfl⟩
    have inside : ∀ c ∈ word, (c != mark) = true := by
      intro c mem
      simpa using ne_of_mem_of_not_mem mem closed
    have run := (while_iff (· != mark) _ word (mark :: rest)).mpr ⟨rfl, inside, by simp⟩
    simp [takeQuoted?, quote, run.1, run.2]

private theorem bracketSpelling_of_takeBracketed? {step : Step}
    (found : takeBracketed? text = some (step, rest)) :
    ∃ word, text = word ++ rest ∧ BracketSpelling word step := by
  unfold takeBracketed? at found
  split at found
  · obtain ⟨rfl, rfl⟩ := Prod.mk.inj (Option.some.inj found)
    exact ⟨['*'], rfl, .wildcard⟩
  · split at found
    · next read =>
        obtain ⟨rfl, rfl⟩ := Prod.mk.inj (Option.some.inj found)
        obtain ⟨word, parts, numeral⟩ := numeral_of_takeIndex? read
        exact ⟨word, parts, .index numeral⟩
    · obtain ⟨⟨name, behind⟩, read, same⟩ := Option.map_eq_some_iff.mp found
      obtain ⟨rfl, rfl⟩ := Prod.mk.inj same
      obtain ⟨mark, word, rfl, quote, closed, rfl⟩ := takeQuoted?_eq_some_iff.mp read
      exact ⟨mark :: (word ++ [mark]), by simp, .quoted quote closed⟩

theorem BracketSpelling.read {step : Step} (spelt : BracketSpelling word step)
    (ends : Ends rest) : takeBracketed? (word ++ rest) = some (step, rest) := by
  cases spelt with
  | wildcard => rfl
  | index numeral =>
      have number := numeral.read ends
      have star := numeral.head_ne rest (c := '*') rfl (by decide)
      unfold takeBracketed?
      split
      · next same => simp [same] at star
      · rw [number]
  | @quoted mark name quote closed =>
      have text : mark :: (name ++ [mark]) ++ rest = mark :: (name ++ mark :: rest) := by simp
      have read := takeQuoted?_eq_some_iff.mpr ⟨mark, name, text, quote, closed, rfl⟩
      have other : takeIndex? (mark :: (name ++ [mark]) ++ rest) = none := by
        refine Option.eq_none_iff_forall_not_mem.mpr fun ⟨position, behind⟩ found => ?_
        obtain ⟨word, parts, numeral⟩ := numeral_of_takeIndex? found
        refine numeral.head_ne behind (c := mark) ?_ ?_ (by rw [← parts]; rfl)
        all_goals rcases quote with rfl | rfl <;> decide
      unfold takeBracketed?
      split
      · next same =>
          rcases quote with rfl | rfl <;> simp at same
      · rw [other, read]
        rfl

theorem stepSpelling_of_takeStep? {step : Step} (found : takeStep? text = some (step, rest)) :
    ∃ word, text = word ++ rest ∧ StepSpelling word step := by
  unfold takeStep? at found
  split at found
  · obtain ⟨⟨name, behind⟩, read, same⟩ := Option.map_eq_some_iff.mp found
    obtain ⟨rfl, rfl⟩ := Prod.mk.inj same
    obtain ⟨word, rfl, bare, rfl, -⟩ := takeBare?_eq_some_iff.mp read
    exact ⟨'.' :: word, rfl, .dot bare⟩
  · split at found
    · next read =>
        obtain ⟨rfl, rfl⟩ := Prod.mk.inj (Option.some.inj found)
        obtain ⟨word, rfl, inside⟩ := bracketSpelling_of_takeBracketed? read
        exact ⟨'[' :: (word ++ [']']), by simp, .bracket inside⟩
    · contradiction
  · contradiction

theorem StepSpelling.read {step : Step} (spelt : StepSpelling word step)
    (stops : Stops rest) : takeStep? (word ++ rest) = some (step, rest) := by
  cases spelt with
  | @dot name bare =>
      have read := takeBare?_eq_some_iff.mpr ⟨name, rfl, bare, rfl, stops⟩
      simp [takeStep?, read]
  | @bracket text step inside =>
      have taken : takeBracketed? (text ++ ']' :: rest) = some (step, ']' :: rest) :=
        inside.read (by simp [Ends])
      simp [takeStep?, taken]

theorem StepSpelling.opens {step : Step} (spelt : StepSpelling word step) :
    ∃ c tail, word = c :: tail ∧ isBareChar c = false := by
  cases spelt with
  | dot bare => exact ⟨'.', _, rfl, rfl⟩
  | bracket inside => exact ⟨'[', _, rfl, rfl⟩

theorem StepsSpelling.stops {path : Path} (spelt : StepsSpelling text path) : Stops text := by
  cases spelt with
  | nil => simp [Stops]
  | cons first rest =>
      obtain ⟨c, tail, rfl, other⟩ := first.opens
      simpa [Stops] using other

theorem StepsSpelling.append {path more : Path} (left : StepsSpelling text path)
    (right : StepsSpelling rest more) : StepsSpelling (text ++ rest) (path ++ more) := by
  induction left with
  | nil => exact right
  | cons first others ih =>
      rw [List.append_assoc]
      exact .cons first ih

/-! ## Paths -/

theorem takeSteps_spelling (fuel : Nat) (text : List Char) :
    ∃ word, text = word ++ (takeSteps fuel text).2 ∧
      StepsSpelling word (takeSteps fuel text).1 := by
  induction fuel generalizing text with
  | zero => exact ⟨[], rfl, .nil⟩
  | succ fuel ih =>
      unfold takeSteps
      split
      · next step behind read =>
          obtain ⟨first, rfl, spelt⟩ := stepSpelling_of_takeStep? read
          obtain ⟨others, parts, more⟩ := ih behind
          refine ⟨first ++ others, ?_, .cons spelt more⟩
          rw [List.append_assoc, ← parts]
      · exact ⟨[], rfl, .nil⟩

/-- Every step takes a character, so as many steps as characters are enough. -/
theorem StepsSpelling.read {fuel : Nat} {path : Path} (spelt : StepsSpelling text path)
    (enough : text.length ≤ fuel) : takeSteps fuel text = (path, []) := by
  induction spelt generalizing fuel with
  | nil => cases fuel <;> rfl
  | @cons word text step path first rest ih =>
      have taken := first.read rest.stops
      obtain ⟨c, tail, rfl, -⟩ := first.opens
      obtain _ | fuel := fuel
      · simp at enough
      · have fewer : text.length ≤ fuel := by
          simp only [List.cons_append, List.length_cons, List.length_append] at enough
          omega
        simp only [takeSteps, taken, ih fewer]

private theorem takePath_eq_nil_iff {path : Path} :
    takePath text = (path, []) ↔ RelativeSpelling (skipRoot text) path := by
  constructor
  · intro found
    unfold takePath at found
    split at found
    · next more read =>
        obtain ⟨rfl, behind⟩ := Prod.mk.inj found
        obtain ⟨name, parts, bare, rfl, -⟩ := takeBare?_eq_some_iff.mp read
        obtain ⟨word, spelt, steps⟩ := takeSteps_spelling more.length more
        rw [behind, List.append_nil] at spelt
        rw [parts]
        exact .named bare (spelt ▸ steps)
    · obtain ⟨word, spelt, steps⟩ := takeSteps_spelling (skipRoot text).length (skipRoot text)
      rw [found] at spelt steps
      rw [spelt, List.append_nil]
      exact .steps steps
  · intro spelt
    unfold takePath
    generalize skipRoot text = behind at spelt ⊢
    cases spelt with
    | steps steps =>
        rw [takeBare?_eq_none_iff.mpr steps.stops]
        exact steps.read le_rfl
    | @named name text path bare steps =>
        rw [takeBare?_eq_some_iff.mpr ⟨name, rfl, bare, rfl, steps.stops⟩]
        simp [steps.read le_rfl]

theorem pathSpelling_iff {path : Path} :
    PathSpelling text path ↔ RelativeSpelling (skipRoot text) path := by
  constructor
  · rintro (⟨behind⟩ | ⟨unrooted, whole⟩)
    · exact behind
    · unfold skipRoot
      split
      · contradiction
      · exact whole
  · intro spelt
    unfold skipRoot at spelt
    split at spelt
    · exact .rooted spelt
    · next unrooted =>
        refine .rootless (fun starts => ?_) spelt
        obtain ⟨tail, same⟩ := List.head?_eq_some_iff.mp starts
        exact unrooted tail same

end

theorem Path.ofText_eq_ok_iff {text : List Char} {path : Path} :
    Path.ofText text = .ok path ↔ PathSpelling text path := by
  rw [pathSpelling_iff, ← takePath_eq_nil_iff]
  unfold Path.ofText
  split
  · next found => simp [found]
  · next unread found =>
      rw [found]
      exact iff_of_false nofun fun same => unread (Prod.mk.inj same).2

theorem Path.compile_eq_ok_iff {text : String} {path : Path} :
    Path.compile text = .ok path ↔ PathSpelling text.toList path := by
  rw [← Path.ofText_eq_ok_iff]
  unfold Path.compile Path.parse
  split
  · next read => rw [read]; simp
  · next read => rw [read]; simp

theorem PathSpelling.append {text rest : List Char} {path more : Path}
    (left : PathSpelling text path) (right : StepsSpelling rest more) :
    PathSpelling (text ++ rest) (path ++ more) := by
  have behind {text : List Char} {path : Path} (spelt : RelativeSpelling text path) :
      RelativeSpelling (text ++ rest) (path ++ more) := by
    cases spelt with
    | steps steps => exact .steps (steps.append right)
    | named bare steps =>
        rw [List.append_assoc]
        exact .named bare (steps.append right)
  cases left with
  | rooted spelt => exact .rooted (behind spelt)
  | rootless unrooted spelt =>
      refine .rootless ?_ (behind spelt)
      cases text with
      | nil =>
          intro starts
          exact absurd (right.stops '$' starts) (by decide)
      | cons c text => exact unrooted

end Gleaner.Json
