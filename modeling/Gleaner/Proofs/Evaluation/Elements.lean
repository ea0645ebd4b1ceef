import Gleaner.Proofs.Evaluation.LoneArray
import Gleaner.Proofs.Text.Blank
import Gleaner.Proofs.Value.Elementwise

/-!
# What is read of elements

A backend gives a text, or nothing, for each element that a selector matches.  The value of the
selector has one primitive for each of them, in the same order.  Trimming and narrowing work on the
primitives one by one, trimming first.
-/

namespace Gleaner

/-! ## Texts of elements -/

namespace Attribute

/-- What a primitive holds of what a backend gives of an element. -/
inductive ReadsAs (trimText : Bool) (reading : Attribute) : Option String → Primitive → Prop
  /-- The element has no such attribute. -/
  | absent : ReadsAs trimText reading none .null
  /-- Its text or its markup, without the blanks around it. -/
  | trimmed {text : String} (on : trimText = true) (unnamed : reading = .text ∨ reading = .html) :
      ReadsAs trimText reading (some text) (.string (Text.trimmed text))
  /-- What is given, as it is. -/
  | verbatim {text : String} (kept : trimText = false ∨ ∃ name, reading = .named name) :
      ReadsAs trimText reading (some text) (.string text)

/-- What becomes of a primitive when trimming is switched on. -/
inductive TrimsTo (reading : Attribute) : Primitive → Primitive → Prop
  /-- Nothing stays nothing. -/
  | null : TrimsTo reading .null .null
  /-- A text or markup loses the blanks around it. -/
  | trimmed {text : String} (unnamed : reading = .text ∨ reading = .html) :
      TrimsTo reading (.string text) (.string (Text.trimmed text))
  /-- The value of a named attribute stays as it is. -/
  | named {name text : String} (named : reading = .named name) :
      TrimsTo reading (.string text) (.string text)

/-- The text read from an element, tidied so that a text is kept if trimming takes no byte from
it. -/
def tidyByLength (trimText : Bool) (reading : Attribute) (text : String) : String :=
  match reading with
  | .named _ => text
  | _ =>
      if trimText then
        let trimmed := Text.trimmed text
        if Text.byteLength trimmed.toList = Text.byteLength text.toList then text else trimmed
      else text

/-- The primitive for what a backend gives of an element. -/
def primitive (trimText : Bool) (reading : Attribute) (given : Option String) : Primitive :=
  .ofOption (given.map (reading.tidy trimText))

private theorem unnamed_or_named (reading : Attribute) :
    (reading = .text ∨ reading = .html) ∨ ∃ name, reading = .named name := by
  cases reading <;> simp

private theorem primitive_of_unnamed {reading : Attribute}
    (unnamed : reading = .text ∨ reading = .html) (trimText : Bool) (text : String) :
    reading.primitive trimText (some text) =
      .string (if trimText then Text.trimmed text else text) := by
  rcases unnamed with rfl | rfl <;> rfl

theorem tidyByLength_eq_tidy (trimText : Bool) (reading : Attribute) (text : String) :
    reading.tidyByLength trimText text = reading.tidy trimText text := by
  have kept (bytes : Text.byteLength (Text.trimmed text).toList = Text.byteLength text.toList) :
      text = Text.trimmed text := by
    rw [Text.trimmed, String.toList_ofList] at bytes
    rw [Text.trimmed, Text.trimmed_of_byteLength bytes, String.ofList_toList]
  cases reading with
  | named name => rfl
  | text | html =>
      simp only [tidyByLength, tidy]
      split_ifs with on same
      · exact kept same
      · rfl
      · rfl

private theorem readsAs_primitive (trimText : Bool) (reading : Attribute) (given : Option String) :
    reading.ReadsAs trimText given (reading.primitive trimText given) := by
  cases given with
  | none => exact .absent
  | some text =>
      obtain unnamed | ⟨name, rfl⟩ := reading.unnamed_or_named
      · rw [primitive_of_unnamed unnamed]
        cases trimText with
        | true => exact .trimmed rfl unnamed
        | false => exact .verbatim (.inl rfl)
      · exact .verbatim (.inr ⟨name, rfl⟩)

private theorem primitive_trimsTo (reading : Attribute) (given : Option String) :
    reading.TrimsTo (reading.primitive false given) (reading.primitive true given) := by
  cases given with
  | none => exact .null
  | some text =>
      obtain unnamed | ⟨name, rfl⟩ := reading.unnamed_or_named
      · rw [primitive_of_unnamed unnamed, primitive_of_unnamed unnamed]
        exact .trimmed unnamed
      · exact .named rfl

end Attribute

/-! ## Values of selectors -/

namespace Value

/-- The value has a primitive for each of the given, in order: one alone makes a scalar. -/
inductive HoldsEach {Given : Type} (relation : Given → Primitive → Prop) :
    Value → List Given → Prop
  | alone {given : Given} {item : Primitive} (related : relation given item) :
      HoldsEach relation (.scalar item) [given]
  | several {given : List Given} {items : List Primitive} (number : given.length ≠ 1)
      (related : List.Forall₂ relation given items) :
      HoldsEach relation (.sequence items) given

private theorem holdsEach_ofMatches {Given : Type} {relation : Given → Primitive → Prop}
    {given : List Given} {items : List Primitive} (related : List.Forall₂ relation given items) :
    (ofMatches items).HoldsEach relation given := by
  cases related with
  | nil => exact .several (by simp) .nil
  | cons here rest =>
      cases rest with
      | nil => exact .alone here
      | cons next rest => exact .several (by simp) (.cons here (.cons next rest))

private theorem HoldsEach.elementwise {relation : Primitive → Primitive → Prop} {value : Value}
    {items : List Primitive} (holds : value.HoldsEach relation items) :
    (ofMatches items).Elementwise relation value := by
  cases holds with
  | alone related => exact .scalar related
  | several number related =>
      rw [ofMatches_of_length_ne_one number]
      exact .sequence related

end Value

variable {Tree : Type} {backends : Backends Tree} {tree : Tree} {query : String}
  {reading : Attribute} {found : List (Option String)}

theorem Selector.resolve_css (answered : backends.markup.queryAll tree query reading = .ok found)
    (trimText : Bool) (source : String) :
    (Selector.css query reading).resolve backends trimText (.html source tree) =
      .ok (.ofMatches (found.map (reading.primitive trimText))) := by
  simp only [Selector.resolve, answered]
  rfl

/-- A selector of elements finds a primitive for each text or gap that the backend gives, in the
same order: nothing for a gap, and for a text the text, without the blanks around it exactly if
texts are trimmed and it is not the value of a named attribute; it makes no difference to keep the
texts that trimming makes no shorter.  Trimming changes nothing else, and a narrowing pattern
narrows the primitives after they are trimmed. -/
theorem Term.resolve_css_each (config : EngineConfig) (source : String)
    (answered : backends.markup.queryAll tree query reading = .ok found) :
    let resolve := fun (config : EngineConfig) (sanitizer : Option Pattern) =>
      Term.resolve backends config.trimText (.html source tree)
        { selector := .css query reading, sanitizer }
    (∃ value, resolve config none = .ok value ∧
        value.HoldsEach (reading.ReadsAs config.trimText) found ∧
        ∀ pattern, ∃ narrowed, resolve config (some pattern) = .ok narrowed ∧
          value.Elementwise (fun item part => item.sanitize pattern = part) narrowed) ∧
      (∀ text, reading.tidyByLength config.trimText text = reading.tidy config.trimText text) ∧
      ∃ plain trimmed, resolve { config with trimText := false } none = .ok plain ∧
        resolve { config with trimText := true } none = .ok trimmed ∧
        plain.Elementwise reading.TrimsTo trimmed := by
  intro resolve
  have unnarrowed (config : EngineConfig) : resolve config none =
      .ok (.ofMatches (found.map (reading.primitive config.trimText))) := by
    simp only [resolve, Term.resolve, Selector.resolve_css answered, Except.map]
  have narrowed (pattern : Pattern) : resolve config (some pattern) =
      .ok ((Value.ofMatches (found.map (reading.primitive config.trimText))).sanitize pattern) := by
    simp only [resolve, Term.resolve, Selector.resolve_css answered, Except.map]
  refine ⟨⟨_, unnarrowed config, ?listed, fun pattern => ⟨_, narrowed pattern, ?each⟩⟩,
    reading.tidyByLength_eq_tidy config.trimText, _, _, unnarrowed _, unnarrowed _, ?switched⟩
  case listed =>
    refine Value.holdsEach_ofMatches ?_
    rw [List.forall₂_map_right_iff, List.forall₂_same]
    exact fun given _ => reading.readsAs_primitive config.trimText given
  case each => exact Value.elementwise_map (fun _ => rfl) _
  case switched =>
    refine (Value.holdsEach_ofMatches ?_).elementwise
    rw [List.forall₂_map_left_iff, List.forall₂_map_right_iff, List.forall₂_same]
    exact fun given _ => reading.primitive_trimsTo given

/-- Three texts and a gap, the markup of one element alone, and a named attribute, given by a
backend that looks at no markup.  A blank that is trimmed off is not in the way of a pattern. -/
theorem Term.resolve_css_each_of_gap :
    let given := [some " \u00a0A\n", none, some "", some "B "]
    let backends : Backends Unit :=
      { markup :=
          { load := fun _ => ()
            queryAll := fun _ _ reading =>
              .ok (match reading with
                | .text => given
                | .html => [some " <b> "]
                | .named _ => [none, some " x "]) }
        path := jsonPathBackend }
    let resolve := fun (trimText : Bool) (reading : Attribute) (sanitizer : Option Pattern) =>
      Term.resolve backends trimText (.html "" ()) { selector := .css "li" reading, sanitizer }
    let plain := Value.sequence [.string " \u00a0A\n", .null, .string "", .string "B "]
    let trimmed := Value.sequence [.string "A", .null, .string "", .string "B"]
    let narrowed := Value.sequence [.string "A", .null, .null, .string "B"]
    (resolve true .text none = .ok trimmed ∧
        trimmed.HoldsEach (Attribute.text.ReadsAs true) given) ∧
      (resolve false .text none = .ok plain ∧ plain.Elementwise Attribute.text.TrimsTo trimmed) ∧
      (∃ pattern, Pattern.ofSource "^[A-Z]$" = .ok pattern ∧
        resolve true .text (some pattern) = .ok narrowed ∧
        trimmed.Elementwise (fun item part => item.sanitize pattern = part) narrowed) ∧
      resolve true .html none = .ok (.scalar (.string "<b>")) ∧
      resolve true (.named "id") none = .ok (.sequence [.null, .string " x "]) := by
  intro given backends resolve plain trimmed narrowed
  have with_trimming : resolve true .text none = .ok trimmed := by decide
  have without : resolve false .text none = .ok plain := by decide
  have evaluated : ((Pattern.ofSource "^[A-Z]$").toOption.any fun pattern =>
      decide (resolve true .text (some pattern) = .ok narrowed)) = true := by
    decide +kernel
  have answered : backends.markup.queryAll () "li" .text = .ok given := rfl
  obtain ⟨⟨value, resolved, listed, parts⟩, -, off, on, kept, tidied, switched⟩ :=
    Term.resolve_css_each {} "" answered
  obtain rfl : value = trimmed := Except.ok.inj (resolved.symm.trans with_trimming)
  obtain rfl : off = plain := Except.ok.inj (kept.symm.trans without)
  obtain rfl : on = trimmed := Except.ok.inj (tidied.symm.trans with_trimming)
  refine ⟨⟨with_trimming, listed⟩, ⟨without, switched⟩, ?_, by decide, by decide⟩
  cases compiled : Pattern.ofSource "^[A-Z]$" with
  | error cause => simp [compiled, Except.toOption] at evaluated
  | ok pattern =>
      rw [compiled] at evaluated
      have concrete : resolve true .text (some pattern) = .ok narrowed :=
        of_decide_eq_true evaluated
      obtain ⟨value, resolved, each⟩ := parts pattern
      obtain rfl : value = narrowed := Except.ok.inj (resolved.symm.trans concrete)
      exact ⟨pattern, rfl, concrete, each⟩

end Gleaner
