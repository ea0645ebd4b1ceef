import Gleaner.Proofs.Rule.RoundTrip

/-!
# Well-formed rules

What can be relied on in a rule that was read from a text: no part is empty, selectors and paths
are trimmed, attributes have names, patterns compile, and no part holds what the scanners in front
of it would have taken off.
-/

namespace Gleaner

namespace Rule

/-! ## Quotations -/

/-- Quotation marks in the text come in pairs, each mark closed by the next one of its kind. -/
inductive QuotesClosed : List Char → Prop
  | nil : QuotesClosed []
  | plain {c text} (single : c ≠ '\'') (double : c ≠ '"') (rest : QuotesClosed text) :
      QuotesClosed (c :: text)
  | quotation {mark inside text} (kind : mark = '\'' ∨ mark = '"') (within : mark ∉ inside)
      (rest : QuotesClosed text) : QuotesClosed (mark :: inside ++ mark :: text)

theorem openQuote_append (quote : Option Char) (front back : List Char) :
    openQuote quote (front ++ back) = openQuote (openQuote quote front) back := by
  induction front generalizing quote with
  | nil => rfl
  | cons c front ih =>
      cases quote with
      | none => exact ih _
      | some mark => exact ih _

/-- An open quotation stays open until its mark comes again. -/
theorem openQuote_some {mark : Char} {inside : List Char} (absent : mark ∉ inside) :
    openQuote (some mark) inside = some mark := by
  induction inside with
  | nil => rfl
  | cons c rest ih =>
      obtain ⟨other, later⟩ := List.ne_and_not_mem_of_not_mem_cons absent
      simp [openQuote, other.symm, ih later]

theorem openQuote_quotation {mark : Char} {inside : List Char} (kind : mark = '\'' ∨ mark = '"')
    (absent : mark ∉ inside) (rest : List Char) :
    openQuote none (mark :: inside ++ mark :: rest) = openQuote none rest := by
  have opens : (mark == '\'' || mark == '"') = true := by simpa using kind
  have inner := openQuote_append (some mark) inside (mark :: rest)
  rw [openQuote_some absent] at inner
  simpa [openQuote, opens] using inner

private theorem exists_closing_mark {mark : Char} {text : List Char}
    (closes : openQuote (some mark) text = none) :
    ∃ inside rest, text = inside ++ mark :: rest ∧ mark ∉ inside ∧ openQuote none rest = none := by
  have member : mark ∈ text := by
    by_contra absent
    simp [openQuote_some absent] at closes
  obtain ⟨inside, rest, split, absent⟩ := List.eq_append_cons_of_mem member
  refine ⟨inside, rest, split, absent, ?_⟩
  rw [split, openQuote_append, openQuote_some absent] at closes
  simpa [openQuote] using closes

theorem quotesClosed_iff (text : List Char) : QuotesClosed text ↔ openQuote none text = none := by
  constructor
  · intro closed
    induction closed with
    | nil => rfl
    | plain single double rest ih => simpa [openQuote, single, double] using ih
    | quotation kind within rest ih => rw [openQuote_quotation kind within, ih]
  · intro closes
    -- The recursion skips a whole quotation at once, so it is on the length.
    induction length : text.length using Nat.strong_induction_on generalizing text with
    | _ count ih =>
        cases text with
        | nil => exact .nil
        | cons c text =>
            by_cases kind : c = '\'' ∨ c = '"'
            · have opens : (c == '\'' || c == '"') = true := by simpa using kind
              have inner : openQuote (some c) text = none := by
                simpa [openQuote, opens] using closes
              obtain ⟨inside, rest, rfl, absent, behind⟩ := exists_closing_mark inner
              have shorter : rest.length < count := by
                simp at length
                omega
              exact .quotation kind absent (ih rest.length shorter rest behind rfl)
            · obtain ⟨single, double⟩ := not_or.mp kind
              have behind : openQuote none text = none := by
                simpa [openQuote, single, double] using closes
              have shorter : text.length < count := by
                simp at length
                omega
              exact .plain single double (ih text.length shorter text behind rfl)

end Rule

/-! ## Well-formed parts -/

/-- The name is a letter or underscore, then letters, digits, underscores, hyphens and colons, and
no other attribute goes by it. -/
structure Attribute.ValidName (name : String) : Prop where
  /-- The characters. -/
  spelled : ∃ first rest, name.toList = first :: rest ∧ (first.isAlpha ∨ first = '_') ∧
    ∀ c ∈ rest, c.isAlpha ∨ c.isDigit ∨ c = '_' ∨ c = '-' ∨ c = ':'
  /-- The text of an element has its own name. -/
  notText : name ≠ "text"
  /-- The markup of an element has its own name. -/
  notHtml : name ≠ "html"

/-- The text of a selector list or path is there, and no blanks surround it. -/
structure Rule.Tight (text : List Char) : Prop where
  /-- Something is left of it. -/
  nonempty : text ≠ []
  /-- Nothing can be trimmed. -/
  trimmed : Text.Trimmed text

/-- A path that no combinator stands in, quotations apart. -/
structure Rule.BarePath (path : List Char) : Prop extends Rule.Tight path where
  /-- No space and mark at the end. -/
  ending : ∀ combinator : Rule.Combinator, ¬(' ' :: combinator.mark) <:+ path
  /-- A quotation is open in front of each combinator. -/
  quoted : ∀ before (combinator : Rule.Combinator) after,
    path = before ++ combinator.token ++ after → ¬Rule.QuotesClosed before

/-- The pattern is not empty, and it is what its source compiles to. -/
structure Pattern.WellFormed (pattern : Pattern) : Prop where
  /-- The source. -/
  nonempty : pattern.source ≠ ""
  /-- The automaton. -/
  compiles : Pattern.ofSource pattern.source = .ok pattern

/-- What holds of the parts of a selector, by its family. -/
def Selector.WellFormed : Selector → Prop
  | css selector reading =>
      Rule.Tight selector.toList ∧ ∀ name, reading = .named name → Attribute.ValidName name
  | json path => Rule.BarePath path.toList
  | regex pattern => pattern.WellFormed
  | text _ => True

/-- What holds of a term wherever it stands. -/
structure Term.WellFormed (term : Term) : Prop where
  /-- The selector. -/
  selector : term.selector.WellFormed
  /-- The narrowing pattern. -/
  sanitizer : ∀ sanitizer ∈ term.sanitizer, sanitizer.WellFormed
  /-- No backslash in front of the separator. -/
  unguarded : term.sanitizer ≠ none → term.selector.kind = .text ∨ term.selector.kind = .regex →
    term.selector.body.getLast? ≠ some '\\'

/-- What holds of every rule that is read from a text. -/
structure Rule.WellFormed (rule : Rule) : Prop where
  /-- At least one chain. -/
  groups : rule.groups ≠ []
  /-- At least one term in each chain. -/
  chains : ∀ chain ∈ rule.groups, chain.terms ≠ []
  /-- The terms. -/
  terms : ∀ chain ∈ rule.groups, ∀ term ∈ chain.terms, term.WellFormed
  /-- No literal in front of another term ends in a colon, unless a pattern narrows it. -/
  labels : ∀ chain ∈ rule.groups, ∀ term ∈ chain.terms.dropLast, ¬term.IsLabel

private theorem Attribute.validName_of_isAttributeName {name : String}
    (valid : Rule.isAttributeName name.toList = true) (own : ofName name = .named name) :
    ValidName name := by
  refine ⟨?_, ?_, ?_⟩
  · cases split : name.toList with
    | nil => simp [split, Rule.isAttributeName] at valid
    | cons first rest =>
        rw [split, Rule.isAttributeName, Bool.and_eq_true, List.all_eq_true] at valid
        refine ⟨first, rest, rfl, by simpa using valid.1, fun c member => ?_⟩
        simpa [Char.isAlphanum, or_assoc] using valid.2 c member
  · rintro rfl
    exact absurd own (by decide)
  · rintro rfl
    exact absurd own (by decide)

theorem Pattern.wellFormed_of_source {pattern : Pattern} (nonempty : pattern.source.toList ≠ []) :
    pattern.WellFormed where
  nonempty empty := nonempty (by rw [empty]; rfl)
  compiles := ofSource_source pattern

namespace Rule

private theorem barePath_of_hasBareCombinator {path : List Char} (tight : Tight path)
    (plain : hasBareCombinator path = false) : BarePath path := by
  obtain ⟨ending, outside⟩ := (hasBareCombinator_eq_false_iff path).mp plain
  rw [tight.trimmed.trimEnd_eq] at ending
  refine { tight with ending, quoted := fun before combinator after split closed => ?_ }
  have starts : startsSpaced (combinator.token ++ after) = true :=
    (startsSpaced_eq_true_iff _).mpr ⟨combinator, List.prefix_append _ _⟩
  have spaced : spacedOutside none path = true :=
    (spacedOutside_eq_true_iff none path).mpr
      ⟨before, _, by rw [split, List.append_assoc], (quotesClosed_iff before).mp closed, starts⟩
  rw [outside] at spaced
  contradiction

private theorem selector_wellFormed_of_readable {selector : Selector}
    (readable : selector.Readable) : selector.WellFormed := by
  cases selector with
  | css selector reading =>
      obtain ⟨nonempty, trimmed, -, valid, own⟩ := readable
      refine ⟨⟨nonempty, trimmed⟩, ?_⟩
      rintro name rfl
      exact Attribute.validName_of_isAttributeName valid own
  | json path =>
      obtain ⟨nonempty, trimmed, plain⟩ := readable
      exact barePath_of_hasBareCombinator ⟨nonempty, trimmed⟩ plain
  | regex pattern => exact Pattern.wellFormed_of_source readable
  | text literal => trivial

private theorem ReadFrom.body_eq {body : List Char} {selector : Selector}
    (read : ReadFrom body selector) (kept : selector.kind = .text ∨ selector.kind = .regex) :
    selector.body = body := by
  cases read with
  | css plain nonempty => simp [Selector.kind] at kept
  | json plain nonempty => simp [Selector.kind] at kept
  | regex source nonempty => exact source
  | text => simp [Selector.body]

/-- A separator with a backslash in front is none, so no backslash ends the text in front of the
one that a segment is cut at. -/
private theorem getLast?_body_of_termOf {segment : List Char} {term : Term}
    (read : termOf segment = .ok term) (narrowed : term.sanitizer ≠ none)
    (kept : term.selector.kind = .text ∨ term.selector.kind = .regex) :
    term.selector.body.getLast? ≠ some '\\' := by
  obtain ⟨kind, text, -, selected, sanitized⟩ := (termOf_eq_ok_iff segment term).mp read
  have source := (readFrom_of_selectorOf selected).2
  have same := (sanitizerOf_eq_ok sanitized).1
  rw [source.body_eq kept, getLast?_unescape]
  cases cut : cutLast false text with
  | none =>
      have bare : term.sanitizer = none := by simpa [splitSanitizer, cut] using same.symm
      contradiction
  | some parts =>
      have unescaped : endsEscaped false parts.1 = false := (cutLast_eq_some cut).2.1
      rw [endsEscaped_false_iff] at unescaped
      simpa [splitSanitizer, cut] using unescaped

theorem term_wellFormed_of_termOf {segment : List Char} {term : Term}
    (read : termOf segment = .ok term) : term.WellFormed := by
  obtain ⟨selector, sanitizer⟩ := readable_of_termOf read
  exact
    { selector := selector_wellFormed_of_readable selector
      sanitizer := fun pattern narrows => Pattern.wellFormed_of_source (sanitizer pattern narrows)
      unguarded := getLast?_body_of_termOf read }

/-- Every rule that is read from a text is well formed. -/
theorem wellFormed_of_parse {text : String} {rule : Rule} (read : parse text = .ok rule) :
    rule.WellFormed := by
  obtain ⟨-, -, pieces, -, terms, chains, split, reads⟩ := (parse_eq_ok_iff text rule).mp read
  have groups : rule.groups ≠ [] := by simp [split]
  have each := reads.forall_terms fun behind piece term fits => term_wellFormed_of_termOf fits
  have labels := not_isLabel_of_reads reads
  rw [← split] at each labels
  exact { groups, chains := split ▸ reads.terms_ne_nil, terms := each, labels }

/-- A combinator inside a quotation, a narrowed label and a label that keeps a space. -/
theorem wellFormed_of_quoted_combinator :
    ∃ rule, parse "@json:$['a && b']##x && @text:c:##d && @text:e: && @css: h1 @href" = .ok rule ∧
      rule.WellFormed := by
  have accepted : (parse
      "@json:$['a && b']##x && @text:c:##d && @text:e: && @css: h1 @href").toOption.isSome := by
    decide
  cases read : parse "@json:$['a && b']##x && @text:c:##d && @text:e: && @css: h1 @href" with
  | error cause => simp [read, Except.toOption] at accepted
  | ok rule => exact ⟨rule, rfl, wellFormed_of_parse read⟩

end Rule

end Gleaner
