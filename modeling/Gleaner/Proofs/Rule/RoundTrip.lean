import Gleaner.Proofs.Rule.Chains

/-!
# Reading a rule again

A rule that was read from a text is read again from its written form exactly when its terms are
legible.  Not all of them are: of three number signs in a row the first two are guarded by a
backslash, and the last two are then read as a separator.
-/

namespace Gleaner

namespace Rule

theorem startsDangling_of_opensTerm {text : List Char} (opens : opensTerm text = true) :
    startsDangling text = false := by
  obtain ⟨word, rest, rfl, -, -⟩ := (opensTerm_eq_true_iff text).mp opens
  rfl

theorem trim_ne_nil_of_opensTerm {text : List Char} (opens : opensTerm text = true) :
    Text.trim text ≠ [] := by
  obtain ⟨word, rest, rfl, -, -⟩ := (opensTerm_eq_true_iff text).mp opens
  exact Text.trim_cons_ne_nil (by decide) _

/-- A rule whose written terms can stand as pieces is read from its written form exactly when each
term is legible and none that another one follows in its chain is a label. -/
theorem parse_render_iff_of_aligned {rule : Rule} {first : List Char}
    {more : List (Combinator × List Char)} {terms : List Term} {chains : List Chain}
    (split : rule.groups = { terms } :: chains)
    (readable : ∀ chain ∈ rule.groups, ∀ term ∈ chain.terms, term.Readable)
    (written : Aligned Writes first more terms chains) :
    parse rule.render = .ok rule ↔ ∀ chain ∈ rule.groups,
      (∀ term ∈ chain.terms, term.Legible) ∧ ∀ term ∈ chain.terms.dropLast, ¬term.IsLabel := by
  obtain ⟨well, opens⟩ := written.wellCut
  have start := opensTerm_joined opens more
  have text := toList_render_of_aligned split readable written
  rw [parse_eq_ok_iff, text]
  rw [split] at readable ⊢
  rw [← aligned_reads_iff written readable]
  constructor
  · rintro ⟨-, -, pieces, cut, others, rest, same, reads⟩
    obtain ⟨chain_eq, rfl⟩ := List.cons.inj same
    obtain rfl := Chain.mk.inj chain_eq
    have found := (cuts_eq_ok_iff _ _).mpr cut
    rw [cuts_joined well] at found
    obtain rfl := Except.ok.inj found
    exact reads
  · intro reads
    exact ⟨trim_ne_nil_of_opensTerm start, startsDangling_of_opensTerm start,
      { first, more }, ⟨rfl, well⟩, terms, chains, rfl, reads⟩

/-! ## Rules that were read -/

private theorem readable_of_reads {first : List Char} {more : List (Combinator × List Char)}
    {terms : List Term} {chains : List Chain} (reads : Aligned Reads first more terms chains) :
    ∀ chain ∈ { terms } :: chains, ∀ term ∈ chain.terms, term.Readable :=
  reads.forall_terms fun _ _ _ read => readable_of_termOf read

theorem not_isLabel_of_reads {first : List Char} {more : List (Combinator × List Char)}
    {terms : List Term} {chains : List Chain} (reads : Aligned Reads first more terms chains) :
    ∀ chain ∈ { terms } :: chains, ∀ term ∈ chain.terms.dropLast, ¬term.IsLabel := by
  induction reads with
  | last read => simp
  | and read behind ih =>
      obtain ⟨next, rest, rfl⟩ := List.exists_cons_of_ne_nil behind.ne_nil
      rw [List.forall_mem_cons] at ih ⊢
      rw [List.dropLast_cons_cons, List.forall_mem_cons]
      exact ⟨⟨not_isLabel_of_beforeCombinator read, ih.1⟩, ih.2⟩
  | or read _ ih =>
      rw [List.forall_mem_cons]
      exact ⟨by simp, ih⟩

private theorem exists_written_of_reads {first : List Char} {more : List (Combinator × List Char)}
    {terms : List Term} {chains : List Chain} (reads : Aligned Reads first more terms chains)
    (well : WellCut first more) : ∃ first more, Aligned Writes first more terms chains := by
  refine reads.replace well fun behind piece term read whole => ⟨term.written, rfl, ?_⟩
  refine whole_written_of_termOf ?_ read
  cases behind with
  | none => exact whole
  | some combinator => exact whole.beforeCombinator combinator

/-- A rule that was read from a text is read again from its written form exactly when each of its
terms is legible: a term without a narrowing pattern has every run of number signs in its body
single or of even length; a narrowed one has a body that ends in no backslash, and a pattern whose
runs are single or even and that does not start with a single sign. -/
theorem parse_render_iff_of_parse {text : String} {rule : Rule} (read : parse text = .ok rule) :
    parse rule.render = .ok rule ↔
      ∀ chain ∈ rule.groups, ∀ term ∈ chain.terms, term.Legible := by
  obtain ⟨-, -, pieces, ⟨-, well⟩, terms, chains, split, reads⟩ :=
    (parse_eq_ok_iff text rule).mp read
  have readable := readable_of_reads reads
  have other := not_isLabel_of_reads reads
  obtain ⟨first, more, written⟩ := exists_written_of_reads reads well
  rw [← split] at readable other
  rw [parse_render_iff_of_aligned split readable written]
  exact ⟨fun both chain member => (both chain member).1,
    fun legible chain member => ⟨legible chain member, other chain member⟩⟩

/-- A rule with one guarded pair of number signs is read again from its written form. -/
theorem parse_render_of_guarded_pair :
    ∃ rule, parse "@css:h1@href && @text:a\\##b || @json:$.x" = .ok rule ∧
      parse rule.render = .ok rule := by
  let first : Chain :=
    { terms := [{ selector := .css "h1" (.named "href") }, { selector := .text "a##b" }] }
  let second : Chain := { terms := [{ selector := .json "$.x" }] }
  have read : parse "@css:h1@href && @text:a\\##b || @json:$.x" =
      .ok { groups := [first, second] } := by decide
  refine ⟨_, read, (parse_render_iff_of_parse read).mpr ?_⟩
  simp only [first, second, List.forall_mem_cons, List.not_mem_nil, false_imp_iff, implies_true,
    and_true, Term.Legible, ← cutLast_escape_eq_none_iff false]
  decide

/-- Of three number signs in a row, the last two are read as a separator. -/
theorem parse_render_ne_of_three_signs :
    ∃ rule, parse "@text:x#\\##y" = .ok rule ∧ parse rule.render ≠ .ok rule :=
  ⟨{ groups := [{ terms := [{ selector := .text "x###y" }] }] }, by decide, by decide⟩

end Rule

end Gleaner
