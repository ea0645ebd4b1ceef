import Gleaner.Proofs.Rule.RoundTrip
import Gleaner.Rule.Build

/-!
# Rules put together

Two rules with a combinator between their texts are read as one rule.  Behind `||` come the chains
of the second rule after those of the first; `&&` makes one chain of the last chain of the first
rule and the first chain of the second.
-/

namespace Gleaner

/-- The term as it is read in front of another one of its chain: a literal that ends in a colon,
with no narrowing pattern, gains a space. -/
def Term.beforeAnd (term : Term) : Term :=
  match term.selector, term.sanitizer with
  | .text literal, none =>
      if literal.toList.getLast? = some ':' ∨ literal.toList.getLast? = some '：' then
        { selector := .text (literal ++ " ") }
      else term
  | _, _ => term

private theorem Term.beforeAnd_eq_self {term : Term} (other : ¬term.IsLabel) :
    term.beforeAnd = term := by
  unfold beforeAnd
  split
  · next literal selected bare =>
      rw [if_neg]
      intro ends
      refine other ⟨by rw [selected]; rfl, bare, ?_⟩
      rwa [selected]
  · rfl

namespace Rule

/-! ## The term at the seam -/

theorem termOf_text {literal : List Char} (plain : cutLast false literal = none) :
    termOf (SelectorKind.text.tag.toList ++ literal) =
      .ok { selector := .text (String.ofList (unescape literal)) } := by
  refine (termOf_eq_ok_iff _ _).mpr ⟨.text, literal, rfl, ?_, ?_⟩
  · simp [splitSanitizer, plain, selectorOf]
  · simp [splitSanitizer, plain, sanitizerOf]

/-- Only a label is read otherwise in front of another term of its chain. -/
theorem termOf_beforeCombinator {segment : List Char} {term : Term}
    (read : termOf segment = .ok term) :
    termOf (beforeCombinator .and segment) = .ok term.beforeAnd := by
  by_cases label : isLabel segment = true
  · obtain ⟨literal, rfl, plain, ends⟩ := (isLabel_eq_true_iff segment).mp label
    have spaced := (cutLast_append_space literal false).mpr plain
    have last : (unescape literal).getLast? = some ':' ∨
        (unescape literal).getLast? = some '：' := by
      rwa [getLast?_unescape]
    have behind : unescape (literal ++ [' ']) = unescape literal ++ [' '] :=
      unescape_append (by simp)
    rw [termOf_text plain] at read
    obtain rfl := Except.ok.inj read
    simp only [beforeCombinator, label, beq_self_eq_true, Bool.and_self, if_true]
    rw [List.append_assoc, termOf_text spaced, behind]
    simp [Term.beforeAnd, last]
  · have plain : beforeCombinator .and segment = segment := by simp [beforeCombinator, label]
    have other := mt (isLabel_iff_of_termOf read).mpr label
    rw [plain, read, Term.beforeAnd_eq_self other]

section

variable {first next : List Char} {more others : List (Combinator × List Char)}
  {terms behind : List Term} {chains rest : List Chain}

theorem opensTerm_of_reads (reads : Aligned Reads first more terms chains) :
    opensTerm first = true := by
  obtain ⟨following, term, others, -, read⟩ := reads.exists_first
  obtain ⟨kind, text, same, -⟩ := (termOf_eq_ok_iff _ term).mp read
  have tagged : opensTerm (segmentOf following first) = true := by
    rw [same]
    exact opensTerm_tag_append kind text
  unfold segmentOf beforeCombinator at tagged
  split at tagged
  · exact tagged
  · split at tagged
    · exact opensTerm_of_append_cons inert_space (by simp) tagged
    · exact tagged

/-! ## Pieces put together -/

private theorem joined_append (first : List Char) (more : List (Combinator × List Char))
    (combinator : Combinator) (next : List Char) (others : List (Combinator × List Char)) :
    joined first (more ++ (combinator, next) :: others) =
      joined first more ++ combinator.token ++ joined next others := by
  induction more generalizing first with
  | nil => rfl
  | cons entry more ih => simp [joined, ih]

/-- The last piece can stand in front of a combinator if no space and mark end it. -/
theorem WellCut.append {combinator : Combinator} (well : WellCut first more)
    (closed : ∀ other : Combinator, ¬(' ' :: other.mark) <:+ joined first more)
    (opens : opensTerm next = true) (right : WellCut next others) :
    WellCut first (more ++ (combinator, next) :: others) := by
  induction more generalizing first with
  | nil => exact ⟨⟨Whole.unbroken well, closed⟩, opens, right⟩
  | cons entry more ih =>
      obtain ⟨between, piece⟩ := entry
      obtain ⟨whole, tagged, inner⟩ := well
      refine ⟨whole, tagged, ih inner fun other ends => closed other (ends.trans ?_)⟩
      exact List.suffix_append _ _

private theorem Aligned.append_or (left : Aligned Reads first more terms chains)
    (right : Aligned Reads next others behind rest) :
    Aligned Reads first (more ++ (.or, next) :: others) terms
      (chains ++ { terms := behind } :: rest) := by
  induction left with
  | @last piece term read =>
      have plain : Reads (some .or) piece term := by
        simpa [Reads, segmentOf, beforeCombinator] using read
      exact .or plain right
  | and read _ ih => exact .and read ih
  | or read _ ih => exact .or read ih

/-- The last term of the last chain is followed by the terms of the first chain behind it. -/
private theorem Aligned.append_and (left : Aligned Reads first more terms chains)
    (right : Aligned Reads next others behind rest) :
    ∃ init lead last whole chains', { terms } :: chains = init ++ [{ terms := lead ++ [last] }] ∧
      { terms := whole } :: chains' =
        init ++ { terms := lead ++ last.beforeAnd :: behind } :: rest ∧
      Aligned Reads first (more ++ (.and, next) :: others) whole chains' := by
  induction left with
  | @last piece term read =>
      have spaced : Reads (some .and) piece term.beforeAnd := termOf_beforeCombinator read
      exact ⟨[], [], term, _, _, rfl, rfl, .and spaced right⟩
  | @and piece _ _ term terms chains read _ ih =>
      obtain ⟨init, lead, last, whole, chains', split, same, aligned⟩ := ih
      cases init with
      | nil =>
          obtain ⟨own, rfl⟩ := List.cons.inj split
          obtain ⟨new, rfl⟩ := List.cons.inj same
          cases own
          cases new
          exact ⟨[], term :: lead, last, _, _, rfl, rfl, .and read aligned⟩
      | cons chain init =>
          obtain ⟨rfl, rfl⟩ := List.cons.inj split
          obtain ⟨new, rfl⟩ := List.cons.inj same
          cases new
          exact ⟨{ terms := term :: terms } :: init, lead, last, _, _, rfl, rfl,
            .and read aligned⟩
  | @or piece _ _ term terms chains read _ ih =>
      obtain ⟨init, lead, last, whole, chains', split, same, aligned⟩ := ih
      exact ⟨{ terms := [term] } :: init, lead, last, [term], { terms := whole } :: chains',
        by rw [split]; rfl, by rw [same]; rfl, .or read aligned⟩

/-- Well cut pieces that are read as terms make up a rule. -/
theorem parse_of_reads {text : String} (same : text.toList = joined first more)
    (well : WellCut first more) (reads : Aligned Reads first more terms chains) :
    parse text = .ok { groups := { terms } :: chains } := by
  have opens := opensTerm_joined (opensTerm_of_reads reads) more
  rw [← same] at opens
  exact (parse_eq_ok_iff _ _).mpr ⟨trim_ne_nil_of_opensTerm opens,
    startsDangling_of_opensTerm opens, { first, more }, ⟨same.symm, well⟩, terms, chains, rfl,
    reads⟩

end

/-- A text that opens a term and that nothing cuts is read as one term. -/
theorem parse_of_whole {text : String} (opens : opensTerm text.toList = true)
    (whole : Whole false text.toList) :
    parse text = (termOf text.toList).map fun term => .ofChain (.ofTerm term) := by
  have cut : Cuts.Of text.toList { first := text.toList, more := [] } := ⟨rfl, whole⟩
  have found : segments text.toList = .ok [[{ text := text.toList, offset := 0 }]] :=
    (segments_eq_ok_iff _ _).mpr
      ⟨trim_ne_nil_of_opensTerm opens, startsDangling_of_opensTerm opens, _, cut, rfl⟩
  rw [parse, ofText, found]
  cases read : termOf text.toList <;>
    simp [chainOf, read, Except.map, bind, Except.bind, pure, Except.pure, ofChain, Chain.ofTerm]

/-- Two rules, the first of which does not end in a space and a mark, are read as one rule: with
`||` between them its chains are those of both, and with `&&` between them the last chain of the
first rule and the first chain of the second are one, in which a label at the seam has gained a
space. -/
theorem parse_append {left right : String} {first second : Rule}
    (readLeft : parse left = .ok first) (readRight : parse right = .ok second)
    (closed : ∀ combinator : Combinator, ¬(' ' :: combinator.mark) <:+ left.toList) :
    parse (left ++ " || " ++ right) = .ok { groups := first.groups ++ second.groups } ∧
      ∃ init lead last next rest, first.groups = init ++ [{ terms := lead ++ [last] }] ∧
        second.groups = next :: rest ∧
        parse (left ++ " && " ++ right) =
          .ok { groups := init ++ { terms := lead ++ last.beforeAnd :: next.terms } :: rest } := by
  obtain ⟨-, -, ⟨piece, more⟩, ⟨leftText, leftWell⟩, terms, chains, leftGroups, leftReads⟩ :=
    (parse_eq_ok_iff left first).mp readLeft
  obtain ⟨-, -, ⟨next, others⟩, ⟨rightText, rightWell⟩, behind, rest, rightGroups, rightReads⟩ :=
    (parse_eq_ok_iff right second).mp readRight
  have well (combinator : Combinator) : WellCut piece (more ++ (combinator, next) :: others) := by
    refine WellCut.append leftWell ?_ (opensTerm_of_reads rightReads) rightWell
    rwa [leftText]
  have text (combinator : Combinator) : left.toList ++ combinator.token ++ right.toList =
      joined piece (more ++ (combinator, next) :: others) := by
    rw [joined_append, leftText, rightText]
  constructor
  · have seam : (left ++ " || " ++ right).toList =
        joined piece (more ++ (.or, next) :: others) := by
      simpa [Combinator.token, Combinator.mark] using text .or
    rw [parse_of_reads seam (well .or) (leftReads.append_or rightReads), leftGroups, rightGroups]
    rfl
  · obtain ⟨init, lead, last, whole, chains', split, same, aligned⟩ :=
      leftReads.append_and rightReads
    have seam : (left ++ " && " ++ right).toList =
        joined piece (more ++ (.and, next) :: others) := by
      simpa [Combinator.token, Combinator.mark] using text .and
    refine ⟨init, lead, last, { terms := behind }, rest, by rw [leftGroups, split], rightGroups, ?_⟩
    rw [parse_of_reads seam (well .and) aligned, same]

/-- A label at the seam gains a space. -/
theorem parse_append_of_label :
    ∃ first second, parse "@json:$.a || @text:Name:" = .ok first ∧
      parse "@css:.t || @text:x" = .ok second ∧
        parse "@json:$.a || @text:Name: && @css:.t || @text:x" =
          .ok { groups := [{ terms := [Term.json "$.a"] },
            { terms := [Term.text "Name: ", Term.css ".t"] }, { terms := [Term.text "x"] }] } := by
  let left := "@json:$.a || @text:Name:"
  have readLeft : parse left =
      .ok { groups := [{ terms := [Term.json "$.a"] }, { terms := [Term.text "Name:"] }] } := by
    decide
  have readRight : parse "@css:.t || @text:x" =
      .ok { groups := [{ terms := [Term.css ".t"] }, { terms := [Term.text "x"] }] } := by
    decide
  have closed : ∀ combinator : Combinator, ¬(' ' :: combinator.mark) <:+ left.toList := by
    rintro (_ | _) <;> decide
  obtain ⟨-, init, lead, last, next, rest, split, same, merged⟩ :=
    parse_append readLeft readRight closed
  have groups : [_] ++ [{ terms := [Term.text "Name:"] }] = init ++ [{ terms := lead ++ [last] }] :=
    split
  obtain ⟨rfl, seam⟩ := List.append_inj' groups rfl
  have terms : [] ++ [Term.text "Name:"] = lead ++ [last] := by simpa using seam
  obtain ⟨rfl, label⟩ := List.append_inj' terms rfl
  obtain rfl : Term.text "Name:" = last := List.cons.inj label |>.1
  obtain ⟨rfl, rfl⟩ := List.cons.inj same
  exact ⟨_, _, readLeft, readRight, merged⟩

end Rule

end Gleaner
