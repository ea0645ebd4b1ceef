import Gleaner.Proofs.Rule.RoundTrip
import Gleaner.Rule.Build

/-!
# Rules that can be spelled

A rule that was built from its parts need not have a written form: a part may hold what the rule
is cut at, or lack what its reading needs.  A rule whose parts can be spelled is read from its
written form exactly when no label stands in front of another term of its chain.
-/

namespace Gleaner

namespace Rule

/-- Combinators in the text are followed, inside the text, by something that is neither a mark nor
the opening of a term, and no space and mark end the text. -/
structure Enclosed (text : List Char) : Prop where
  /-- What follows a combinator. -/
  followed : ∀ before (combinator : Combinator) after, text = before ++ combinator.token ++ after →
    after ≠ [] ∧ startsWithMark after = false ∧ opensTerm after = false
  /-- The end of the text. -/
  closed : ∀ combinator : Combinator, ¬(' ' :: combinator.mark) <:+ text

theorem enclosed_iff_whole (text : List Char) : Enclosed text ↔ ∀ behind, Whole behind text := by
  constructor
  · rintro ⟨followed, closed⟩ behind
    refine ⟨fun before combinator after split => (followed before combinator after split).2, ?_⟩
    intro combinator ends
    cases behind with
    | true => exact closed combinator ends
    | false =>
        obtain ⟨before, split⟩ := ends
        exact (followed before combinator []
          (by simpa [Combinator.remnant] using split.symm)).1 rfl
  · intro whole
    refine ⟨fun before combinator after split => ?_, (whole true).closed⟩
    refine ⟨?_, (whole true).unbroken before combinator after split⟩
    rintro rfl
    exact (whole false).closed combinator
      ⟨before, by simpa [Combinator.remnant] using split.symm⟩

private theorem unbroken_of_not_infix {text : List Char}
    (free : ∀ combinator : Combinator, ¬combinator.token <:+: text) : Unbroken text := by
  rintro before combinator after rfl
  exact absurd ⟨before, after, rfl⟩ (free combinator)

private theorem spacedOutside_of_not_infix {text : List Char}
    (free : ∀ combinator : Combinator, ¬combinator.token <:+: text) :
    spacedOutside none text = false := by
  by_contra spaced
  rw [Bool.not_eq_false] at spaced
  obtain ⟨before, after, rfl, -, starts⟩ := (spacedOutside_eq_true_iff none text).mp spaced
  obtain ⟨combinator, rest, rfl⟩ := (startsSpaced_eq_true_iff after).mp starts
  exact free combinator ⟨before, rest, by simp⟩

end Rule

/-- The attribute has one spelling: its name is valid, and no other attribute goes by it. -/
def Attribute.Spellable : Attribute → Prop
  | text => True
  | html => True
  | named name => Rule.isAttributeName name.toList = true ∧ name ≠ "text" ∧ name ≠ "html"

theorem Attribute.Spellable.valid {reading : Attribute} (spellable : reading.Spellable) :
    Rule.isAttributeName reading.name.toList = true ∧ ofName reading.name = reading := by
  cases reading with
  | text => decide
  | html => decide
  | named name =>
      obtain ⟨valid, notText, notHtml⟩ := spellable
      exact ⟨valid, by simp [Attribute.name, ofName, notText, notHtml]⟩

/-- The parts of the selector can be spelled behind its tag. -/
def Selector.Spellable : Selector → Prop
  | css selector reading =>
      Rule.PairedSigns selector.toList ∧ selector.toList ≠ [] ∧ Text.Trimmed selector.toList ∧
        (∀ combinator : Rule.Combinator, ¬combinator.token <:+: selector.toList) ∧
          reading.Spellable
  | json path =>
      Rule.PairedSigns path.toList ∧ path.toList ≠ [] ∧ Text.Trimmed path.toList ∧
        (∀ combinator : Rule.Combinator, ¬combinator.token <:+: path.toList) ∧
          ∀ combinator : Rule.Combinator, ¬(' ' :: combinator.mark) <:+ path.toList
  | regex pattern =>
      Rule.PairedSigns pattern.source.toList ∧ pattern.source.toList ≠ [] ∧
        Rule.Enclosed pattern.source.toList
  | text literal => Rule.PairedSigns literal.toList ∧ Rule.Enclosed literal.toList

/-- The selector and the narrowing pattern can be spelled on their sides of the separator. -/
structure Term.Spellable (term : Term) : Prop where
  /-- The selector. -/
  selector : term.selector.Spellable
  /-- The narrowing pattern. -/
  sanitizer : ∀ sanitizer ∈ term.sanitizer, sanitizer.source.toList ≠ [] ∧
    Rule.PairedSigns sanitizer.source.toList ∧ Rule.startsLone sanitizer.source.toList = false ∧
      Rule.Enclosed sanitizer.source.toList
  /-- No backslash in front of the separator. -/
  bare : term.sanitizer ≠ none → term.selector.body.getLast? ≠ some '\\'

/-- The rule has chains, its chains have terms, and all of them can be spelled. -/
structure Rule.Spellable (rule : Rule) : Prop where
  /-- At least one chain. -/
  groups : rule.groups ≠ []
  /-- At least one term in each chain. -/
  terms : ∀ chain ∈ rule.groups, chain.terms ≠ []
  /-- The terms. -/
  spellable : ∀ chain ∈ rule.groups, ∀ term ∈ chain.terms, term.Spellable

namespace Selector.Spellable

variable {selector : Selector}

theorem readable (spellable : selector.Spellable) : selector.Readable := by
  cases selector with
  | css selector reading =>
      obtain ⟨-, nonempty, trimmed, free, valid⟩ := spellable
      exact ⟨nonempty, trimmed, Rule.spacedOutside_of_not_infix free, valid.valid⟩
  | json path =>
      obtain ⟨-, nonempty, trimmed, free, closed⟩ := spellable
      refine ⟨nonempty, trimmed, (Rule.hasBareCombinator_eq_false_iff _).mpr ⟨?_, ?_⟩⟩
      · rwa [trimmed.trimEnd_eq]
      · exact Rule.spacedOutside_of_not_infix free
  | regex pattern => exact spellable.2.1
  | text literal => trivial

theorem pairedSigns (spellable : selector.Spellable) : Rule.PairedSigns selector.body := by
  cases selector with
  | css selector reading =>
      obtain ⟨paired, -, -, -, valid⟩ := spellable
      have free : '#' ∉ '@' :: reading.name.toList := by
        simpa using Rule.notMem_of_isAttributeName valid.valid.1 (c := '#') (by decide) (by decide)
      exact (Rule.pairedSigns_append_cons _ _ (by decide)).mpr
        ⟨paired, Rule.pairedSigns_of_notMem free⟩
  | json path => exact spellable.1
  | regex pattern => exact spellable.1
  | text literal => exact spellable.1

theorem whole (spellable : selector.Spellable) (followed : Bool) :
    Rule.Whole followed selector.body := by
  have readable := spellable.readable
  cases selector with
  | css selector reading =>
      obtain ⟨-, -, trimmed, free, valid⟩ := spellable
      exact ⟨Rule.unbroken_append_attribute (Rule.unbroken_of_not_infix free) trimmed valid.valid.1,
        fun combinator => Rule.closed_of_readable readable (.inl rfl) combinator followed⟩
  | json path =>
      obtain ⟨-, -, -, free, -⟩ := spellable
      exact ⟨Rule.unbroken_of_not_infix free,
        fun combinator => Rule.closed_of_readable readable (.inr rfl) combinator followed⟩
  | regex pattern => exact (Rule.enclosed_iff_whole _).mp spellable.2.2 followed
  | text literal => exact (Rule.enclosed_iff_whole _).mp spellable.2 followed

end Selector.Spellable

namespace Term.Spellable

variable {term : Term}

theorem readable (spellable : term.Spellable) : term.Readable :=
  ⟨spellable.selector.readable, fun sanitizer narrows => (spellable.sanitizer sanitizer narrows).1⟩

theorem legible (spellable : term.Spellable) : term.Legible := by
  unfold Legible
  split
  · exact spellable.selector.pairedSigns
  · next sanitizer narrows =>
      obtain ⟨-, paired, start, -⟩ := spellable.sanitizer sanitizer narrows
      exact ⟨spellable.bare (by simp [narrows]), paired, start⟩

theorem whole (spellable : term.Spellable) (followed : Bool) :
    Rule.Whole followed term.written := by
  rw [Rule.whole_written_iff]
  split
  · exact spellable.selector.whole followed
  · next sanitizer narrows =>
      obtain ⟨-, -, -, enclosed⟩ := spellable.sanitizer sanitizer narrows
      exact ⟨(spellable.selector.whole followed).unbroken,
        (Rule.enclosed_iff_whole _).mp enclosed followed⟩

end Term.Spellable

/-- A rule whose parts can be spelled is read from its written form exactly when no literal that
ends in a colon, without a narrowing pattern, stands in front of another term of its chain. -/
theorem Rule.parse_render_iff_of_spellable {rule : Rule} (spellable : rule.Spellable) :
    parse rule.render = .ok rule ↔
      ∀ chain ∈ rule.groups, ∀ term ∈ chain.terms.dropLast, ¬term.IsLabel := by
  obtain ⟨⟨terms⟩, chains, split⟩ := List.exists_cons_of_ne_nil spellable.groups
  have parts := spellable.spellable
  have readable := fun chain member term inner => (parts chain member term inner).readable
  have written : ∃ first more, Aligned Writes first more terms chains := by
    refine exists_aligned (split ▸ spellable.terms) fun behind chain member term inner => ?_
    exact ⟨term.written, rfl, (parts chain (split ▸ member) term inner).whole behind.isSome⟩
  obtain ⟨first, more, aligned⟩ := written
  rw [parse_render_iff_of_aligned split readable aligned]
  exact ⟨fun both chain member => (both chain member).2, fun other chain member =>
    ⟨fun term inner => (parts chain member term inner).legible, other chain member⟩⟩

/-- A literal may hold a combinator that no term follows, and number signs of its own. -/
theorem Rule.parse_render_of_inner_combinator :
    ∃ rule : Rule, rule.Spellable ∧ rule.groups.length = 2 ∧ parse rule.render = .ok rule := by
  have enclosed : Enclosed "a && b##c".toList := by
    have alone := (cuts_eq_ok_iff "a && b##c".toList { first := _, more := [] }).mp rfl
    refine (enclosed_iff_whole _).mpr fun behind => ⟨alone.2.unbroken, ?_⟩
    simp only [← List.isSuffixOf_iff_suffix]
    cases behind <;> rintro (_ | _) <;> decide
  have literal : (Term.text "a && b##c").Spellable :=
    ⟨⟨(cutLast_escape_eq_none_iff false _).mp (by decide), enclosed⟩, by simp [Term.text],
      by simp [Term.text]⟩
  have valid : (Attribute.named "href").Spellable := ⟨by decide, by decide, by decide⟩
  have element : ((Term.css "h1").reading "href").Spellable := by
    refine ⟨⟨pairedSigns_of_notMem (by decide), by decide, rfl, ?_, valid⟩, ?_, ?_⟩
    · rintro (_ | _) <;> decide
    · simp [Term.reading, Term.css]
    · simp [Term.reading, Term.css]
  have path : (Term.json "$.x").Spellable := by
    refine ⟨⟨pairedSigns_of_notMem (by decide), by decide, rfl, ?_, ?_⟩, ?_, ?_⟩
    · rintro (_ | _) <;> decide
    · rintro (_ | _) <;> decide
    · simp [Term.json]
    · simp [Term.json]
  let rule : Rule := { groups := [
    { terms := [Term.text "a && b##c", (Term.css "h1").reading "href"] },
    { terms := [Term.json "$.x"] }] }
  have spellable : rule.Spellable :=
    { groups := by simp [rule]
      terms := by simp [rule]
      spellable := by simp [rule, literal, element, path] }
  refine ⟨rule, spellable, rfl, (parse_render_iff_of_spellable spellable).mpr ?_⟩
  simp [rule, Term.IsLabel, Term.text, Selector.body]

end Gleaner
