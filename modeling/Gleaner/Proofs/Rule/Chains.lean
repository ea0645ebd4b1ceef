import Gleaner.Proofs.Rule.Term

/-!
# Chains and their pieces

The pieces that a rule is cut into line up with the terms of its chains.  A rule is read from a
text exactly when the pieces of the text are read as its terms, and it is written as the text
whose pieces are the written forms of its terms.
-/

namespace Gleaner.Rule

/-- Each piece fits the term in its place: a term of the first chain up to the first `||`, then
those of the chains after it.  What fits may depend on the combinator behind the piece. -/
inductive Aligned (Fits : Option Combinator → List Char → Term → Prop) :
    List Char → List (Combinator × List Char) → List Term → List Chain → Prop
  | last {piece term} (fits : Fits none piece term) : Aligned Fits piece [] [term] []
  | and {piece next more term terms chains} (fits : Fits (some .and) piece term)
      (behind : Aligned Fits next more terms chains) :
      Aligned Fits piece ((.and, next) :: more) (term :: terms) chains
  | or {piece next more term terms chains} (fits : Fits (some .or) piece term)
      (behind : Aligned Fits next more terms chains) :
      Aligned Fits piece ((.or, next) :: more) [term] ({ terms } :: chains)

/-- The segment of a piece: the text that is read as its term. -/
def segmentOf (behind : Option Combinator) (piece : List Char) : List Char :=
  match behind with
  | none => piece
  | some combinator => beforeCombinator combinator piece

/-- Only a literal can gain a space. -/
theorem segmentOf_tag_append {kind : SelectorKind} (other : kind ≠ .text)
    (behind : Option Combinator) (text : List Char) :
    segmentOf behind (kind.tag.toList ++ text) = kind.tag.toList ++ text := by
  have plain : ¬isLabel (kind.tag.toList ++ text) = true :=
    fun label => other ((isLabel_tag_append kind text).mp label).1
  cases behind with
  | none => rfl
  | some combinator => simp [segmentOf, beforeCombinator, plain]

/-- The term is read from the segment of the piece. -/
def Reads (behind : Option Combinator) (piece : List Char) (term : Term) : Prop :=
  termOf (segmentOf behind piece) = .ok term

/-- The piece is the written form of the term, and can stand where it stands. -/
def Writes (behind : Option Combinator) (piece : List Char) (term : Term) : Prop :=
  piece = term.written ∧ Whole behind.isSome piece

section

variable {Fits Other : Option Combinator → List Char → Term → Prop} {first : List Char}
  {more : List (Combinator × List Char)} {terms : List Term} {chains : List Chain}

theorem Aligned.exists_first (aligned : Aligned Fits first more terms chains) :
    ∃ behind term rest, terms = term :: rest ∧ Fits behind first term := by
  cases aligned with
  | last fits => exact ⟨none, _, _, rfl, fits⟩
  | and fits _ => exact ⟨some .and, _, _, rfl, fits⟩
  | or fits _ => exact ⟨some .or, _, _, rfl, fits⟩

theorem Aligned.ne_nil (aligned : Aligned Fits first more terms chains) : terms ≠ [] := by
  obtain ⟨-, term, rest, rfl, -⟩ := aligned.exists_first
  simp

theorem aligned_last_iff {piece : List Char} {term : Term} :
    Aligned Fits piece [] [term] [] ↔ Fits none piece term := by
  constructor
  · rintro ⟨fits⟩
    exact fits
  · exact .last

theorem aligned_and_iff {piece next : List Char} {term : Term} :
    Aligned Fits piece ((.and, next) :: more) (term :: terms) chains ↔
      Fits (some .and) piece term ∧ Aligned Fits next more terms chains := by
  constructor
  · rintro (_ | ⟨fits, behind⟩)
    exact ⟨fits, behind⟩
  · rintro ⟨fits, behind⟩
    exact .and fits behind

theorem aligned_or_iff {piece next : List Char} {term : Term} :
    Aligned Fits piece ((.or, next) :: more) [term] ({ terms } :: chains) ↔
      Fits (some .or) piece term ∧ Aligned Fits next more terms chains := by
  constructor
  · rintro (_ | _ | ⟨fits, behind⟩)
    exact ⟨fits, behind⟩
  · rintro ⟨fits, behind⟩
    exact .or fits behind

/-- What holds of each term that fits its piece holds of all terms. -/
theorem Aligned.forall_terms {property : Term → Prop}
    (aligned : Aligned Fits first more terms chains)
    (each : ∀ behind piece term, Fits behind piece term → property term) :
    ∀ chain ∈ { terms } :: chains, ∀ term ∈ chain.terms, property term := by
  induction aligned with
  | last fits => simpa using each _ _ _ fits
  | and fits behind ih =>
      simp only [List.forall_mem_cons] at ih ⊢
      exact ⟨⟨each _ _ _ fits, ih.1⟩, ih.2⟩
  | or fits behind ih =>
      rw [List.forall_mem_cons]
      exact ⟨by simpa using each _ _ _ fits, ih⟩

theorem Aligned.terms_ne_nil (aligned : Aligned Fits first more terms chains) :
    ∀ chain ∈ { terms } :: chains, chain.terms ≠ [] := by
  induction aligned with
  | last fits => simp
  | and fits behind ih =>
      rw [List.forall_mem_cons] at ih ⊢
      exact ⟨by simp, ih.2⟩
  | or fits behind ih =>
      rw [List.forall_mem_cons]
      exact ⟨by simp, ih⟩

/-- Written pieces are well cut. -/
theorem Aligned.wellCut (written : Aligned Writes first more terms chains) :
    WellCut first more ∧ opensTerm first = true := by
  have opens {behind : Option Combinator} {piece : List Char} {term : Term}
      (writes : Writes behind piece term) : opensTerm piece = true := by
    rw [writes.1]
    exact opensTerm_written term
  induction written with
  | last fits => exact ⟨fits.2, opens fits⟩
  | and fits _ ih => exact ⟨⟨fits.2, ih.2, ih.1⟩, opens fits⟩
  | or fits _ ih => exact ⟨⟨fits.2, ih.2, ih.1⟩, opens fits⟩

/-- Each piece can be replaced by one that fits its term in another way. -/
theorem Aligned.replace (aligned : Aligned Fits first more terms chains) (well : WellCut first more)
    (fit : ∀ behind piece term, Fits behind piece term → Whole behind.isSome piece →
      ∃ other, Other behind other term) :
    ∃ first more, Aligned Other first more terms chains := by
  induction aligned with
  | last fits =>
      obtain ⟨other, fitted⟩ := fit _ _ _ fits well
      exact ⟨other, [], .last fitted⟩
  | and fits behind ih =>
      obtain ⟨other, fitted⟩ := fit _ _ _ fits well.1
      obtain ⟨next, more, rest⟩ := ih well.2.2
      exact ⟨other, (.and, next) :: more, .and fitted rest⟩
  | or fits behind ih =>
      obtain ⟨other, fitted⟩ := fit _ _ _ fits well.1
      obtain ⟨next, more, rest⟩ := ih well.2.2
      exact ⟨other, (.or, next) :: more, .or fitted rest⟩

end

/-! ## Reading chains -/

private theorem mapM_cons_eq_ok_iff {α β ε : Type} {f : α → Except ε β} {x : α} {xs : List α}
    {ys : List β} :
    (x :: xs).mapM f = .ok ys ↔
      ∃ y rest, f x = .ok y ∧ xs.mapM f = .ok rest ∧ ys = y :: rest := by
  rw [List.mapM_cons]
  cases f x with
  | error cause => simp [bind, Except.bind]
  | ok y =>
      cases xs.mapM f with
      | error cause => simp [bind, Except.bind]
      | ok rest => simp [bind, Except.bind, pure, Except.pure, eq_comm]

theorem chainOf_eq_ok_iff (segments : List Segment) (chain : Chain) :
    chainOf segments = .ok chain ↔
      (segments.mapM fun segment => termOf segment.text) = .ok chain.terms := by
  obtain ⟨terms⟩ := chain
  unfold chainOf
  cases segments.mapM fun segment => termOf segment.text <;> simp [Except.map]

private theorem mapM_singleton_eq_ok_iff {α β ε : Type} {f : α → Except ε β} {x : α} {ys : List β} :
    [x].mapM f = .ok ys ↔ ∃ y, f x = .ok y ∧ ys = [y] := by
  rw [mapM_cons_eq_ok_iff]
  simp [pure, Except.pure]

theorem mapM_cons_of_error {α β ε : Type} {f : α → Except ε β} {x : α} {xs : List α} {refusal : ε}
    (refused : f x = .error refusal) : (x :: xs).mapM f = .error refusal := by
  rw [List.mapM_cons, refused]
  rfl

theorem mapM_cons_of_ok {α β ε : Type} {f : α → Except ε β} {x : α} {xs : List α} {y : β}
    (accepted : f x = .ok y) : (x :: xs).mapM f = (xs.mapM f).map (y :: ·) := by
  rw [List.mapM_cons, accepted]
  rfl

/-- The first element that is refused is the one that is reported. -/
theorem mapM_eq_error_iff {α β ε : Type} {f : α → Except ε β} {xs : List α} {refusal : ε} :
    xs.mapM f = .error refusal ↔ ∃ before x behind, xs = before ++ x :: behind ∧
      (∀ other ∈ before, ∃ y, f other = .ok y) ∧ f x = .error refusal := by
  constructor
  · intro refused
    induction xs with
    | nil => cases refused
    | cons x xs ih =>
        cases result : f x with
        | error cause =>
            rw [mapM_cons_of_error result] at refused
            cases refused
            exact ⟨[], x, xs, rfl, by simp, result⟩
        | ok y =>
            rw [mapM_cons_of_ok result] at refused
            cases rest : xs.mapM f with
            | ok ys => simp [rest, Except.map] at refused
            | error cause =>
                simp only [rest, Except.map, Except.error.injEq] at refused
                obtain ⟨before, z, behind, rfl, reads, stops⟩ := ih (refused ▸ rest)
                refine ⟨x :: before, z, behind, rfl, ?_, stops⟩
                simpa using ⟨⟨y, result⟩, reads⟩
  · rintro ⟨before, x, behind, rfl, reads, stops⟩
    induction before with
    | nil => exact mapM_cons_of_error stops
    | cons z before ih =>
        obtain ⟨⟨y, read⟩, reads⟩ := List.forall_mem_cons.mp reads
        rw [List.cons_append, mapM_cons_of_ok read, ih reads]
        rfl

/-- Chains are refused like the row of their segments. -/
theorem mapM_chainOf_eq_error_iff {chains : List (List Segment)} {error : RuleError} :
    chains.mapM chainOf = .error error ↔
      (chains.flatten.mapM fun segment => termOf segment.text) = .error error := by
  induction chains with
  | nil => simp [pure, Except.pure]
  | cons chain chains ih =>
      rw [List.flatten_cons, List.mapM_append]
      cases result : chain.mapM fun segment => termOf segment.text with
      | error cause =>
          rw [mapM_cons_of_error (show chainOf chain = .error cause by rw [chainOf, result]; rfl)]
          simp [bind, Except.bind]
      | ok terms =>
          rw [mapM_cons_of_ok ((chainOf_eq_ok_iff chain ⟨terms⟩).mpr result)]
          generalize (chains.flatten.mapM fun segment => termOf segment.text) = rest at ih ⊢
          generalize chains.mapM chainOf = others at ih ⊢
          cases others <;> cases rest <;>
            simp_all [bind, Except.bind, Except.map, pure, Except.pure]

private theorem mapM_chainsFrom_iff (offset : Nat) (first : List Char)
    (more : List (Combinator × List Char)) (terms : List Term) (chains : List Chain) :
    ((chainsFrom offset first more).1.mapM fun segment => termOf segment.text) = .ok terms ∧
        (chainsFrom offset first more).2.mapM chainOf = .ok chains ↔
      Aligned Reads first more terms chains := by
  induction more generalizing offset first terms chains with
  | nil =>
      rw [chainsFrom, mapM_singleton_eq_ok_iff]
      constructor
      · rintro ⟨⟨term, read, rfl⟩, none_left⟩
        obtain rfl : [] = chains := Except.ok.inj none_left
        exact .last read
      · rintro ⟨read⟩
        exact ⟨⟨_, read, rfl⟩, rfl⟩
  | cons entry more ih =>
      obtain ⟨combinator, next⟩ := entry
      cases combinator with
      | and =>
          simp only [chainsFrom, mapM_cons_eq_ok_iff]
          constructor
          · rintro ⟨⟨term, rest, read, chain_read, rfl⟩, chains_read⟩
            exact .and read ((ih _ next rest chains).mp ⟨chain_read, chains_read⟩)
          · rintro (_ | ⟨read, behind⟩)
            obtain ⟨chain_read, chains_read⟩ := (ih _ next _ chains).mpr behind
            exact ⟨⟨_, _, read, chain_read, rfl⟩, chains_read⟩
      | or =>
          dsimp only [chainsFrom]
          rw [mapM_singleton_eq_ok_iff, mapM_cons_eq_ok_iff]
          simp only [chainOf_eq_ok_iff]
          constructor
          · rintro ⟨⟨term, read, rfl⟩, chain, rest, chain_read, chains_read, rfl⟩
            exact .or read ((ih _ next chain.terms rest).mp ⟨chain_read, chains_read⟩)
          · rintro (_ | _ | ⟨read, behind⟩)
            obtain ⟨chain_read, chains_read⟩ := (ih _ next _ _).mpr behind
            exact ⟨⟨_, read, rfl⟩, _, _, chain_read, chains_read, rfl⟩

theorem mapM_chains_iff (pieces : Cuts) (groups : List Chain) :
    pieces.chains.mapM chainOf = .ok groups ↔ ∃ terms chains, groups = { terms } :: chains ∧
      Aligned Reads pieces.first pieces.more terms chains := by
  dsimp only [Cuts.chains]
  simp only [mapM_cons_eq_ok_iff, chainOf_eq_ok_iff, ← mapM_chainsFrom_iff 0]
  constructor
  · rintro ⟨chain, chains, chain_read, chains_read, rfl⟩
    exact ⟨chain.terms, chains, rfl, chain_read, chains_read⟩
  · rintro ⟨terms, chains, rfl, chain_read, chains_read⟩
    exact ⟨{ terms }, chains, chain_read, chains_read, rfl⟩

/-- A rule is read from a text that is neither blank nor starts with a combinator when the pieces
of the text are read as its terms. -/
theorem parse_eq_ok_iff (text : String) (rule : Rule) :
    parse text = .ok rule ↔
      Text.trim text.toList ≠ [] ∧ startsDangling text.toList = false ∧
        ∃ pieces : Cuts, pieces.Of text.toList ∧ ∃ terms chains, rule.groups = { terms } :: chains ∧
          Aligned Reads pieces.first pieces.more terms chains := by
  obtain ⟨groups⟩ := rule
  have read (chains : List (List Segment)) :
      (chains.mapM chainOf).map Rule.mk = .ok { groups } ↔ chains.mapM chainOf = .ok groups := by
    cases chains.mapM chainOf <;> simp [Except.map]
  simp only [← mapM_chains_iff]
  unfold parse ofText
  constructor
  · intro parsed
    cases found : segments text.toList with
    | error cause => simp [found, bind, Except.bind] at parsed
    | ok chains =>
        obtain ⟨nonblank, start, pieces, cut, rfl⟩ := (segments_eq_ok_iff _ _).mp found
        simp only [found, bind, Except.bind] at parsed
        exact ⟨nonblank, start, pieces, cut, (read _).mp parsed⟩
  · rintro ⟨nonblank, start, pieces, cut, spelled⟩
    have found := (segments_eq_ok_iff _ _).mpr ⟨nonblank, start, pieces, cut, rfl⟩
    simp only [found, bind, Except.bind]
    exact (read _).mpr spelled

/-! ## Writing chains -/

private theorem exists_aligned_terms {Fits : Option Combinator → List Char → Term → Prop}
    {terms : List Term} {chains : List Chain} (nonempty : terms ≠ [])
    (fit : ∀ term ∈ terms, ∃ piece, Fits (some .and) piece term)
    (last : ∀ term ∈ terms, ∃ first more, Aligned Fits first more [term] chains) :
    ∃ first more, Aligned Fits first more terms chains := by
  induction terms with
  | nil => exact absurd rfl nonempty
  | cons term rest ih =>
      cases rest with
      | nil => exact last term List.mem_cons_self
      | cons next rest =>
          obtain ⟨piece, fits⟩ := fit term List.mem_cons_self
          obtain ⟨first, more, behind⟩ := ih (by simp)
            (fun term member => fit term (List.mem_cons_of_mem _ member))
            (fun term member => last term (List.mem_cons_of_mem _ member))
          exact ⟨piece, (.and, first) :: more, .and fits behind⟩

/-- Chains with terms have pieces that fit their terms, if each term has one. -/
theorem exists_aligned {Fits : Option Combinator → List Char → Term → Prop} {terms : List Term}
    {chains : List Chain} (nonempty : ∀ chain ∈ { terms } :: chains, chain.terms ≠ [])
    (fit : ∀ behind, ∀ chain ∈ { terms } :: chains, ∀ term ∈ chain.terms,
      ∃ piece, Fits behind piece term) :
    ∃ first more, Aligned Fits first more terms chains := by
  induction chains generalizing terms with
  | nil =>
      refine exists_aligned_terms (nonempty _ List.mem_cons_self)
        (fit _ _ List.mem_cons_self) fun term member => ?_
      obtain ⟨piece, fits⟩ := fit none _ List.mem_cons_self term member
      exact ⟨piece, [], .last fits⟩
  | cons chain chains ih =>
      obtain ⟨first, more, behind⟩ := @ih chain.terms
        (fun other member => nonempty other (List.mem_cons_of_mem _ member))
        (fun behind other member => fit behind other (List.mem_cons_of_mem _ member))
      refine exists_aligned_terms (nonempty _ List.mem_cons_self)
        (fit _ _ List.mem_cons_self) fun term member => ?_
      obtain ⟨piece, fits⟩ := fit (some .or) _ List.mem_cons_self term member
      exact ⟨piece, (.or, first) :: more, .or fits behind⟩

private theorem intercalate_append_cons {α : Type} (separator front word : List α)
    (words : List (List α)) :
    separator.intercalate ((front ++ word) :: words) =
      front ++ separator.intercalate (word :: words) := by
  cases words <;> simp

private theorem joined_eq_intercalate {first : List Char} {more : List (Combinator × List Char)}
    {terms : List Term} {chains : List Chain} (aligned : Aligned Writes first more terms chains) :
    joined first more =
      Combinator.or.token.intercalate (({ terms } :: chains).map fun chain =>
        Combinator.and.token.intercalate (chain.terms.map Term.written)) := by
  induction aligned with
  | last fits => simp [joined, fits.1]
  | and fits behind ih =>
      obtain ⟨head, tail, rfl⟩ := List.exists_cons_of_ne_nil behind.ne_nil
      simp only [joined, ih, fits.1, List.map_cons, List.intercalate_cons_cons,
        intercalate_append_cons]
  | or fits behind ih =>
      simp only [joined, ih, fits.1, List.map_cons, List.map_nil, List.intercalate_singleton,
        List.intercalate_cons_cons]

theorem toList_render_of_aligned {rule : Rule} {first : List Char}
    {more : List (Combinator × List Char)} {terms : List Term} {chains : List Chain}
    (split : rule.groups = { terms } :: chains)
    (readable : ∀ chain ∈ rule.groups, ∀ term ∈ chain.terms, term.Readable)
    (aligned : Aligned Writes first more terms chains) :
    rule.render.toList = joined first more := by
  have chain_text : ∀ chain ∈ rule.groups, chain.render.toList =
      Combinator.and.token.intercalate (chain.terms.map Term.written) := by
    intro chain member
    have term_text := fun term inner => toList_render (readable chain member term inner)
    rw [← List.map_congr_left term_text]
    simp [Chain.render, String.toList_intercalate, Function.comp_def]
  rw [joined_eq_intercalate aligned, ← split, ← List.map_congr_left chain_text]
  simp [render, String.toList_intercalate, Function.comp_def]

/-- The pieces of a written rule are read as its terms exactly when each term is legible and none
that another one follows in its chain is a label. -/
theorem aligned_reads_iff {first : List Char} {more : List (Combinator × List Char)}
    {terms : List Term} {chains : List Chain} (written : Aligned Writes first more terms chains)
    (readable : ∀ chain ∈ { terms } :: chains, ∀ term ∈ chain.terms, term.Readable) :
    Aligned Reads first more terms chains ↔ ∀ chain ∈ { terms } :: chains,
      (∀ term ∈ chain.terms, term.Legible) ∧ ∀ term ∈ chain.terms.dropLast, ¬term.IsLabel := by
  induction written with
  | last fits =>
      have read := termOf_written_iff (readable _ List.mem_cons_self _ List.mem_cons_self)
      rw [aligned_last_iff, Reads, segmentOf, fits.1, read]
      simp
  | and fits behind ih =>
      -- Only here can a label be mistaken: the combinator would add a space to it.
      have own := readable _ List.mem_cons_self _ List.mem_cons_self
      obtain ⟨next, rest, rfl⟩ := List.exists_cons_of_ne_nil behind.ne_nil
      simp only [List.forall_mem_cons] at readable ih ⊢
      rw [aligned_and_iff, ih ⟨readable.1.2, readable.2⟩, Reads, segmentOf, fits.1,
        termOf_beforeCombinator_written_iff own]
      simp only [List.dropLast_cons_cons, List.forall_mem_cons]
      tauto
  | or fits behind ih =>
      have own := readable _ List.mem_cons_self _ List.mem_cons_self
      have plain (piece : List Char) : segmentOf (some .or) piece = piece := by
        simp [segmentOf, beforeCombinator]
      simp only [List.forall_mem_cons] at readable ih ⊢
      rw [aligned_or_iff, ih readable.2, Reads, plain, fits.1, termOf_written_iff own]
      simp

end Gleaner.Rule
