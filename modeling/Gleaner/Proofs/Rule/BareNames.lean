import Gleaner.Proofs.Json.Path.Names
import Gleaner.Proofs.Rule.Untagged

/-!
# Combinators inside paths

The scanner of terms takes every quotation mark in a path for the end of a quotation, while a path
knows quotes only behind an opening bracket.  So a combinator in the path of a term stands in a
quoted name unless a quotation is left open in front of it, which only marks in bare names can do.
-/

namespace Gleaner.Rule

open Json

/-- No quotation mark stands in a bare name in front of `after`. -/
def Unmarked (before after : List Char) : Prop :=
  ∀ front mark back, before = front ++ mark :: back → mark = '\'' ∨ mark = '"' →
    ¬InBareName front [mark] (back ++ after)

section

variable {front left right back before inside after text rest : List Char} {path more : Path}

private theorem Unmarked.of_append (unmarked : Unmarked (front ++ back) after) :
    Unmarked front (back ++ after) := by
  rintro left mark right rfl quote bare
  refine unmarked left mark (right ++ back) (by simp) quote ?_
  simpa using bare

private theorem openQuote_plain (single : '\'' ∉ text) (double : '"' ∉ text) :
    openQuote none text = none := by
  induction text with
  | nil => rfl
  | cons c rest ih =>
      obtain ⟨notSingle, single⟩ := List.ne_and_not_mem_of_not_mem_cons single
      obtain ⟨notDouble, double⟩ := List.ne_and_not_mem_of_not_mem_cons double
      simpa [openQuote, notSingle.symm, notDouble.symm] using ih single double

private theorem Unmarked.openQuote_name (start : NameStart front) (bare : Bare (left ++ right))
    (behind : StepsSpelling back path) (unmarked : Unmarked (front ++ left) (right ++ back)) :
    openQuote none left = none := by
  have absent (mark : Char) (quote : mark = '\'' ∨ mark = '"') : mark ∉ left := by
    intro member
    obtain ⟨first, last, rfl⟩ := List.append_of_mem member
    refine unmarked (front ++ first) mark last (by simp) quote ?_
    have whole : Bare (first ++ [mark] ++ (last ++ right)) := by simpa using bare
    simpa using InBareName.intro start whole behind
  exact openQuote_plain (absent _ (.inl rfl)) (absent _ (.inr rfl))

private theorem openQuote_bracket {step : Step} (spelt : BracketSpelling text step) :
    openQuote none ('[' :: (text ++ [']'])) = none := by
  cases spelt with
  | wildcard => rfl
  | index numeral =>
      have absent (mark : Char) (quote : mark = '\'' ∨ mark = '"') : mark ∉ text := by
        intro member
        have number := numeral.forall_mem mark member
        rcases quote with rfl | rfl <;> simp at number
      exact openQuote_plain (by simpa using absent _ (.inl rfl))
        (by simpa using absent _ (.inr rfl))
  | quoted quote closed =>
      have closes := openQuote_quotation quote closed [']']
      simpa [openQuote] using closes

/-! ## Paths without marks in bare names -/

private theorem Unmarked.openQuote_steps (front_spelt : PathSpelling front path)
    (closed : openQuote none front = none) {steps : Path} (spelt : StepsSpelling text steps)
    (behind : StepsSpelling rest more) (unmarked : Unmarked (front ++ text) rest) :
    openQuote none (front ++ text) = none := by
  induction spelt generalizing front path with
  | nil => simpa using closed
  | @cons word text step steps first others ih =>
      rw [← List.append_assoc] at unmarked ⊢
      have own : openQuote none word = none := by
        cases first with
        | @dot name bare =>
            have start : NameStart (front ++ ['.']) := .dotted front_spelt
            have ahead : Unmarked ((front ++ ['.']) ++ name) ([] ++ (text ++ rest)) := by
              simpa using unmarked.of_append
            have name_closed :=
              ahead.openQuote_name start (by simpa using bare) (others.append behind)
            simpa [openQuote] using name_closed
        | bracket between => exact openQuote_bracket between
      have longer : openQuote none (front ++ word) = none := by
        rw [openQuote_append, closed, own]
      exact ih (front_spelt.append (.single first)) longer unmarked

private theorem Unmarked.openQuote_path (spelt : PathSpelling text path)
    (behind : StepsSpelling rest more) (unmarked : Unmarked text rest) :
    openQuote none text = none := by
  obtain ⟨front, tail, rfl, start, relative⟩ := spelt.exists_start
  have opening : openQuote none front = none := by
    cases start with
    | rooted => rfl
    | rootless _ => rfl
  cases relative with
  | steps steps => exact unmarked.openQuote_steps start.spelling_nil opening steps behind
  | @named name text path bare steps =>
      rw [← List.append_assoc] at unmarked ⊢
      have ahead : Unmarked (front ++ name) ([] ++ (text ++ rest)) := unmarked.of_append
      have own := ahead.openQuote_name start.nameStart (by simpa using bare) (steps.append behind)
      have closed : openQuote none (front ++ name) = none := by
        rw [openQuote_append, opening, own]
      exact unmarked.openQuote_steps (start.spelling_name bare) closed steps behind

/-- Quotations are closed in front of a bare name, and in the part of it that lies in front. -/
theorem Unmarked.quotesClosed (unmarked : Unmarked before (inside ++ after))
    (named : InBareName before inside after) : QuotesClosed before := by
  rw [quotesClosed_iff]
  cases named with
  | @intro front left inside right back path start bare behind =>
      have ahead : Unmarked (front ++ left) ((inside ++ right) ++ back) := by simpa using unmarked
      have own := ahead.openQuote_name start (by simpa using bare) behind
      have opening : openQuote none front = none := by
        cases start with
        | first => rfl
        | rooted => rfl
        | @dotted text path spelt =>
            have steps := StepsSpelling.cons (.dot bare) behind
            have shorter : Unmarked text ('.' :: (left ++ inside ++ right) ++ back) := by
              rw [List.append_assoc] at ahead
              simpa using ahead.of_append
            have closed := shorter.openQuote_path spelt steps
            rw [openQuote_append, closed]
            rfl
      rw [openQuote_append, opening, own]

theorem quotesClosed_of_path (spelt : PathSpelling text path) (unmarked : Unmarked text []) :
    QuotesClosed text :=
  (quotesClosed_iff text).mpr (unmarked.openQuote_path spelt .nil)

/-! ## Combinators in the paths of rules -/

private theorem inner_token (combinator : Combinator) : Inner combinator.token := by
  cases combinator <;> constructor <;> simp [Combinator.token, Combinator.mark]

theorem barePath_of_parse {source : String} {rule : Rule} {term : Term} {path : String}
    (read : parse source = .ok rule) (member : term ∈ rule.terms)
    (selects : term.selector = .json path) : BarePath path.toList := by
  obtain ⟨-, -, pieces, -, terms, chains, split, reads⟩ := (parse_eq_ok_iff source rule).mp read
  have each := reads.forall_terms fun behind piece term fits => term_wellFormed_of_termOf fits
  rw [← split] at each
  obtain ⟨chain, inside, own⟩ := List.mem_flatMap.mp member
  have selector := (each chain inside term own).selector
  rw [selects] at selector
  exact selector

end

section

variable {source path : String} {rule : Rule} {term : Term} {steps : Path} {before after : List Char}
  {combinator : Combinator}

theorem in_quoted_name_of_closed (read : parse source = .ok rule)
    (compiles : Path.compile path = .ok steps) (member : term ∈ rule.terms)
    (selects : term.selector = .json path)
    (split : path.toList = before ++ (combinator.token ++ after))
    (closed : InBareName before combinator.token after → QuotesClosed before) :
    InQuotedName before combinator.token after ∧ ¬InBareName before combinator.token after := by
  have bare : ¬InBareName before combinator.token after := by
    intro named
    -- A rule is read only if a quotation is open in front of each combinator in its paths.
    have path_bare := barePath_of_parse read member selects
    refine path_bare.quoted before combinator after ?_ (closed named)
    rw [split, List.append_assoc]
  have spelt := Path.compile_eq_ok_iff.mp compiles
  exact ⟨(in_name_of_path (inner_token combinator) spelt split).resolve_right bare, bare⟩

/-- Where no bare name in front of it holds a mark, a combinator stands in a quoted name. -/
theorem in_quoted_name_of_unmarked (read : parse source = .ok rule)
    (compiles : Path.compile path = .ok steps) (member : term ∈ rule.terms)
    (selects : term.selector = .json path)
    (split : path.toList = before ++ (combinator.token ++ after))
    (unmarked : Unmarked before (combinator.token ++ after)) :
    InQuotedName before combinator.token after ∧ ¬InBareName before combinator.token after :=
  in_quoted_name_of_closed read compiles member selects split unmarked.quotesClosed

end

/-- In the path of a term that is read from a text, a combinator stands in a quoted name and in no
bare one, unless it stands in a bare one behind a quotation that is left open.  Behind a rule that
ends in a path whose quotations are closed, a text that opens no term makes a malformed rule. -/
theorem combinators_of_path {source path : String} {rule : Rule} {steps : Path}
    (read : parse source = .ok rule) (compiles : Path.compile path = .ok steps) :
    (∀ term ∈ rule.terms, term.selector = .json path →
      ∀ before (combinator : Combinator) after,
        path.toList = before ++ (combinator.token ++ after) →
          (InBareName before combinator.token after → QuotesClosed before) →
            InQuotedName before combinator.token after ∧
              ¬InBareName before combinator.token after) ∧
    (rule.terms.getLast? = some (Term.json path) → QuotesClosed path.toList →
      ∀ (longer : String) (combinator : Combinator) right, opensTerm right = false →
        longer.toList = source.toList ++ combinator.token ++ right →
          ∃ cause, parse longer = .error cause ∧ cause.kind = .malformedRule) := by
  constructor
  · intro term member selects before combinator after split closed
    exact in_quoted_name_of_closed read compiles member selects split closed
  · intro last closed longer combinator right untagged split
    rcases parse_error_of_untagged read last closed untagged split with
      ⟨offset, refused⟩ | ⟨segment, refused⟩
    · exact ⟨_, refused, rfl⟩
    · exact ⟨_, refused, rfl⟩

/-- A combinator in a quoted name, and one that a path without its tag follows. -/
theorem combinators_of_quoted_path :
    ∃ rule, parse "@json:$['a && b']" = .ok rule ∧
      InQuotedName "$['a".toList Combinator.and.token "b']".toList ∧
        ∃ cause, parse "@json:$['a && b'] && $.c" = .error cause ∧
          cause.kind = .malformedRule := by
  have read : parse "@json:$['a && b']" =
      .ok { groups := [{ terms := [Term.json "$['a && b']"] }] } := by decide
  have compiles : Path.compile "$['a && b']" = .ok [.key "a && b"] := by decide
  have unmarked (before rest after : List Char)
      (split : ['$', '[', '\'', 'a', ' ', '&', '&', ' ', 'b', '\'', ']'] = before ++ rest) :
      Unmarked before after := by
    rintro front mark back rfl quote named
    match front with
    | [] => rcases quote with rfl | rfl <;> simp at split
    | [c] => rcases quote with rfl | rfl <;> simp at split
    | c :: d :: front =>
        simp only [List.cons_append, List.cons.injEq] at split
        obtain ⟨rfl, rfl, same⟩ := split
        have dot := named.dot_mem (by simp)
        have absent : '.' ∉ front := by
          intro member
          have inside : '.' ∈ front ++ mark :: back ++ rest := by simp [member]
          rw [← same] at inside
          exact absurd inside (by decide)
        simp [absent] at dot
  obtain ⟨inside, behind⟩ := combinators_of_path read compiles
  refine ⟨_, read, ?_, ?_⟩
  · have quoted := inside (Term.json "$['a && b']") (by simp [terms]) rfl "$['a".toList .and
      "b']".toList (by decide)
      (unmarked _ (Combinator.and.token ++ "b']".toList) _ (by decide)).quotesClosed
    exact quoted.1
  · have closed := quotesClosed_of_path (Path.compile_eq_ok_iff.mp compiles)
      (unmarked _ [] _ (by decide))
    exact behind (by decide) closed _ .and "$.c".toList (by decide) (by decide)

/-- The quotation that an apostrophe in a bare name opens hides a combinator in that name. -/
theorem combinator_in_bare_name :
    parse "@json:$.it's && $.b" = .ok { groups := [{ terms := [Term.json "$.it's && $.b"] }] } ∧
      Path.compile "$.it's && $.b" = .ok [.key "it's && $", .key "b"] ∧
        "$.it's && $.b".toList = "$.it's".toList ++ (Combinator.and.token ++ "$.b".toList) ∧
          ¬InQuotedName "$.it's".toList Combinator.and.token "$.b".toList ∧
            InBareName "$.it's".toList Combinator.and.token "$.b".toList := by
  refine ⟨by decide, by decide, by decide, fun quoted => ?_, ?_⟩
  · exact absurd quoted.bracket_mem (by decide)
  · have root : PathSpelling ['$'] [] := .rooted (.steps .nil)
    have key : Bare ['b'] := ⟨by decide, by simp⟩
    have last : StepsSpelling ".b".toList [.key (String.ofList ['b'])] := .single (.dot key)
    have name : Bare ("it's".toList ++ Combinator.and.token ++ ['$']) :=
      ⟨by decide, by simp [Combinator.token, Combinator.mark]⟩
    exact .intro (.dotted root) name last

end Gleaner.Rule
