import Gleaner.Evaluation.Basic
import Mathlib.Data.List.Infix

/-!
# Faulty terms

Evaluation visits the terms of a rule from left to right, chain by chain, up to the first chain
that succeeds.  It fails exactly when one of the visited terms is faulty, and then for the reason
of the first one that is: the term cannot be used on the document, a backend refuses its query, or
it finds a sequence of another length than an earlier term of its chain while lengths must agree.
That nothing is found is no fault.
-/

namespace Gleaner

/-- Selectors of the family can be used on documents of the kind. -/
def SelectorKind.Fits : SelectorKind → DocumentKind → Prop
  | css, kind => kind = .html
  | json, kind => kind = .json
  | regex, kind => kind = .html ∨ kind = .text
  | text, _ => True

variable {Tree : Type}

/-- A backend refuses the query of the selector. -/
def Selector.Refused (backends : Backends Tree) (document : Document Tree) (selector : Selector)
    (error : QueryError) : Prop :=
  match selector, document with
  | .css query reading, .html _ tree => backends.markup.queryAll tree query reading = .error error
  | .json path, .json root => backends.path.evaluate root path = .error error
  | _, _ => False

/-- The term finds a sequence of this length, which is not empty. -/
def Term.FindsSequence (backends : Backends Tree) (config : EngineConfig)
    (document : Document Tree) (term : Term) (length : Nat) : Prop :=
  ∃ items, term.resolve backends config.trimText document = .ok (.sequence items) ∧
    items ≠ [] ∧ items.length = length

/-- The chain has a value that counts as a match. -/
def Chain.Succeeds (backends : Backends Tree) (config : EngineConfig) (document : Document Tree)
    (chain : Chain) : Prop :=
  ∃ value, chain.evaluate backends config document = .ok value ∧ value.isSuccess = true

/-- What is wrong with a term that stands behind the `earlier` terms of its chain. -/
inductive Fault (backends : Backends Tree) (config : EngineConfig) (document : Document Tree)
    (earlier : List Term) (term : Term) : EvalError → Prop
  /-- The term cannot be used on the document. -/
  | misfit (unfit : ¬term.selector.kind.Fits document.kind) :
      Fault backends config document earlier term
        (.documentMismatch term.selector.kind document.kind)
  /-- A backend refuses the query of the term. -/
  | refused {error : QueryError} (refuses : term.selector.Refused backends document error) :
      Fault backends config document earlier term (.query error)
  /-- The term finds a sequence of another length than an earlier one. -/
  | uneven {other : Term} {left right : Nat} (strict : config.zipPolicy = .error)
      (member : other ∈ earlier) (before : other.FindsSequence backends config document left)
      (here : term.FindsSequence backends config document right) (differ : left ≠ right) :
      Fault backends config document earlier term (.lengthMismatch { left, right })

/-- A term in its place: the chains before its chain, and the terms before it in its chain. -/
structure Point where
  /-- The chains before. -/
  chains : List Chain
  /-- The earlier terms of its chain. -/
  terms : List Term
  /-- The term. -/
  term : Term

namespace Point

/-- The rule has the term in this place, and agrees with it up to there. -/
def In (rule : Rule) (point : Point) : Prop :=
  ∃ behind after,
    rule.groups = point.chains ++ { terms := point.terms ++ point.term :: behind } :: after

/-- None of the chains before the point ends the evaluation. -/
def Visited (backends : Backends Tree) (config : EngineConfig) (document : Document Tree)
    (rule : Rule) (point : Point) : Prop :=
  point.In rule ∧ ∀ chain ∈ point.chains, ¬chain.Succeeds backends config document

/-- The left point stands in an earlier chain, or earlier in the same chain. -/
def Before (left right : Point) : Prop :=
  (∃ chain rest, right.chains = left.chains ++ chain :: rest ∧
      left.terms ++ [left.term] <+: chain.terms) ∨
    left.chains = right.chains ∧ left.terms ++ [left.term] <+: right.terms

/-- Something is wrong with the term of the point. -/
def Faulty (backends : Backends Tree) (config : EngineConfig) (document : Document Tree)
    (point : Point) (error : EvalError) : Prop :=
  Fault backends config document point.terms point.term error

/-- The point is visited and faulty, and no point before it is faulty. -/
structure FirstFault (backends : Backends Tree) (config : EngineConfig)
    (document : Document Tree) (rule : Rule) (point : Point) (error : EvalError) : Prop where
  /-- Evaluation comes to the point. -/
  visited : point.Visited backends config document rule
  /-- The term of the point is faulty. -/
  faulty : point.Faulty backends config document error
  /-- The terms before it are not. -/
  first : ∀ earlier : Point, earlier.Before point →
    ∀ other, ¬earlier.Faulty backends config document other

end Point

/-! ## One term -/

section

variable {backends : Backends Tree} {config : EngineConfig} {document : Document Tree}

/-- A selector finds nothing at all only where it does not fit or is refused. -/
theorem Selector.resolve_eq_error_iff {trimText : Bool} {selector : Selector} {error : EvalError} :
    selector.resolve backends trimText document = .error error ↔
      (¬selector.kind.Fits document.kind ∧
          error = .documentMismatch selector.kind document.kind) ∨
        ∃ cause, selector.Refused backends document cause ∧ error = .query cause := by
  cases selector with
  | css query reading =>
      cases document with
      | html source tree =>
          cases found : backends.markup.queryAll tree query reading <;>
            simp [resolve, found, Refused, SelectorKind.Fits, kind, Document.kind, eq_comm]
      | json root =>
          simp [resolve, Refused, SelectorKind.Fits, kind, Document.kind, eq_comm]
      | text content =>
          simp [resolve, Refused, SelectorKind.Fits, kind, Document.kind, eq_comm]
  | json path =>
      cases document with
      | html source tree =>
          simp [resolve, Refused, SelectorKind.Fits, kind, Document.kind, eq_comm]
      | json root =>
          cases found : backends.path.evaluate root path <;>
            simp [resolve, found, Refused, SelectorKind.Fits, kind, Document.kind, eq_comm]
      | text content =>
          simp [resolve, Refused, SelectorKind.Fits, kind, Document.kind, eq_comm]
  | regex pattern =>
      cases document <;>
        simp [resolve, Refused, SelectorKind.Fits, kind, Document.kind, Document.rawText?, eq_comm]
  | text literal => simp [resolve, Refused, SelectorKind.Fits, kind]

theorem Term.resolve_eq_error_iff {trimText : Bool} {term : Term} {error : EvalError} :
    term.resolve backends trimText document = .error error ↔
      term.selector.resolve backends trimText document = .error error := by
  unfold Term.resolve
  cases term.selector.resolve backends trimText document <;> simp [Except.map]

end

/-! ## Joining one value more -/

/-- Values cannot be joined only where two sequences must be of one length and are not. -/
theorem Value.concat_eq_error_iff {policy : ZipPolicy} {left right : Value}
    {lengths : LengthMismatch} :
    left.concat policy right = .error lengths ↔
      policy = .error ∧ ∃ before here, left = .sequence before ∧ right = .sequence here ∧
        before.length ≠ here.length ∧
          lengths = { left := before.length, right := here.length } := by
  cases left with
  | scalar left => cases right <;> simp [concat]
  | sequence before =>
      cases right with
      | scalar right => simp [concat]
      | sequence here =>
          by_cases same : before.length = here.length
          · simp [concat, joinSequences, same, Except.map]
          · cases policy <;> simp [concat, joinSequences, same, Except.map, eq_comm]

/-- The value of the terms before a term joined with its own value. -/
def joinOnto (policy : ZipPolicy) (merged : Option Value) (value : Value) :
    Except LengthMismatch Value :=
  match merged with
  | none => .ok value
  | some before => before.concat policy value

theorem mergeTerms_cons (policy : ZipPolicy) (resolve : Term → Except EvalError Value)
    (merged : Option Value) (term : Term) (terms : List Term) :
    mergeTerms policy resolve merged (term :: terms) =
      match resolve term with
      | .error error => .error error
      | .ok value =>
          match joinOnto policy merged value.absentAsNull with
          | .error lengths => .error (.lengthMismatch lengths)
          | .ok joined => mergeTerms policy resolve (some joined) terms := by
  rw [mergeTerms]
  cases resolve term with
  | error error => rfl
  | ok value =>
      cases merged with
      | none => rfl
      | some before =>
          simp only [bind, Except.bind, joinOnto]
          cases before.concat policy value.absentAsNull <;> rfl

/-- The value is a sequence of this length. -/
def Value.HasLength (value : Value) (length : Nat) : Prop :=
  ∃ items, value = .sequence items ∧ items.length = length

private theorem Value.hasLength_absentAsNull_iff {value : Value} {length : Nat} :
    value.absentAsNull.HasLength length ↔
      ∃ items, value = .sequence items ∧ items ≠ [] ∧ items.length = length := by
  cases value with
  | scalar item => simp [absentAsNull, HasLength]
  | sequence items => cases items <;> simp [absentAsNull, HasLength, null]

/-- Sequences that must be of one length join to a sequence of that length. -/
theorem Value.hasLength_of_concat {left right joined : Value}
    (joins : left.concat .error right = .ok joined) (length : Nat) :
    joined.HasLength length ↔ left.HasLength length ∨ right.HasLength length := by
  cases left with
  | scalar left =>
      cases right <;> (cases joins; simp [HasLength])
  | sequence before =>
      cases right with
      | scalar right => cases joins; simp [HasLength]
      | sequence here =>
          by_cases same : before.length = here.length
          · simp only [concat, joinSequences, same, if_true, Except.map, Except.ok.injEq] at joins
            subst joins
            simp [HasLength, joinItems, same]
          · simp [concat, joinSequences, same, Except.map] at joins

/-! ## One chain -/

section

variable {backends : Backends Tree} {config : EngineConfig} {document : Document Tree}
  {earlier : List Term} {merged : Option Value} {term : Term} {error : EvalError}

private theorem Term.findsSequence_iff {value : Value}
    (resolved : term.resolve backends config.trimText document = .ok value) (length : Nat) :
    term.FindsSequence backends config document length ↔ value.absentAsNull.HasLength length := by
  rw [Value.hasLength_absentAsNull_iff, FindsSequence, resolved]
  simp

variable (backends config document) in
/-- Where lengths must agree, the sequences that the terms found are as long as the sequence that
they are merged to. -/
def Levels (earlier : List Term) (merged : Option Value) : Prop :=
  config.zipPolicy = .error → ∀ length,
    (∃ other ∈ earlier, other.FindsSequence backends config document length) ↔
      ∃ value ∈ merged, value.HasLength length

private theorem levels_nil : Levels backends config document [] none := by
  intro _ length
  simp

theorem Levels.concat {value joined : Value}
    (levels : Levels backends config document earlier merged)
    (resolved : term.resolve backends config.trimText document = .ok value)
    (joins : joinOnto config.zipPolicy merged value.absentAsNull = .ok joined) :
    Levels backends config document (earlier ++ [term]) (some joined) := by
  intro strict length
  have found : (∃ other ∈ earlier ++ [term], other.FindsSequence backends config document length) ↔
      (∃ before ∈ merged, before.HasLength length) ∨ value.absentAsNull.HasLength length := by
    rw [← levels strict length, ← Term.findsSequence_iff resolved]
    simp [or_and_right, exists_or]
  rw [found]
  cases merged with
  | none =>
      cases joins
      simp
  | some before =>
      rw [joinOnto, strict] at joins
      simpa using (Value.hasLength_of_concat joins length).symm

/-- A term is faulty exactly when it finds no value, or one that cannot be joined to the value of
the terms before it. -/
private theorem Levels.fault_iff (levels : Levels backends config document earlier merged) :
    Fault backends config document earlier term error ↔
      term.resolve backends config.trimText document = .error error ∨
        ∃ value lengths, term.resolve backends config.trimText document = .ok value ∧
          joinOnto config.zipPolicy merged value.absentAsNull = .error lengths ∧
            error = .lengthMismatch lengths := by
  constructor
  · intro fault
    cases fault with
    | misfit unfit =>
        exact .inl (Term.resolve_eq_error_iff.mpr
          (Selector.resolve_eq_error_iff.mpr (.inl ⟨unfit, rfl⟩)))
    | refused refuses =>
        exact .inl (Term.resolve_eq_error_iff.mpr
          (Selector.resolve_eq_error_iff.mpr (.inr ⟨_, refuses, rfl⟩)))
    | @uneven other left right strict member before here differ =>
        obtain ⟨value, same, items, rfl, rfl⟩ := (levels strict left).mp ⟨other, member, before⟩
        obtain rfl : merged = some (.sequence items) := same
        obtain ⟨found, resolved, -, rfl⟩ := id here
        obtain ⟨kept, whole, length⟩ := (Term.findsSequence_iff resolved _).mp here
        refine .inr ⟨_, _, resolved, Value.concat_eq_error_iff.mpr
          ⟨strict, items, kept, rfl, whole, length ▸ differ, rfl⟩, ?_⟩
        rw [length]
  · rintro (failed | ⟨value, lengths, resolved, joins, rfl⟩)
    · obtain ⟨unfit, rfl⟩ | ⟨cause, refuses, rfl⟩ :=
        Selector.resolve_eq_error_iff.mp (Term.resolve_eq_error_iff.mp failed)
      · exact .misfit unfit
      · exact .refused refuses
    · cases merged with
      | none => cases joins
      | some before =>
          obtain ⟨strict, items, found, rfl, same, differ, rfl⟩ :=
            Value.concat_eq_error_iff.mp joins
          obtain ⟨other, member, finds⟩ :=
            (levels strict items.length).mpr ⟨_, rfl, items, rfl, rfl⟩
          exact .uneven strict member finds
            ((Term.findsSequence_iff resolved _).mpr ⟨found, same, rfl⟩) differ

variable (backends config document) in
/-- No term is faulty behind the `earlier` terms and those before it. -/
def Faultless (earlier terms : List Term) : Prop :=
  ∀ front term behind, terms = front ++ term :: behind →
    ∀ error, ¬Fault backends config document (earlier ++ front) term error

private theorem faultless_nil : Faultless backends config document earlier [] := by
  intro front term behind split
  simp at split

private theorem faultless_cons_iff {terms : List Term} :
    Faultless backends config document earlier (term :: terms) ↔
      (∀ error, ¬Fault backends config document earlier term error) ∧
        Faultless backends config document (earlier ++ [term]) terms := by
  constructor
  · intro faultless
    refine ⟨by simpa using faultless [] term terms rfl, fun front next behind split error => ?_⟩
    simpa using faultless (term :: front) next behind (by simp [split]) error
  · rintro ⟨here, behind⟩ front next rest split error
    cases front with
    | nil =>
        obtain ⟨rfl, rfl⟩ := List.cons.inj split
        simpa using here error
    | cons head front =>
        obtain ⟨rfl, inner⟩ := List.cons.inj split
        simpa using behind front next rest inner error

variable (backends config document) in
/-- One of the terms is faulty behind the `earlier` ones, and those before it are not. -/
def FailsFirst (earlier terms : List Term) (error : EvalError) : Prop :=
  ∃ front term behind, terms = front ++ term :: behind ∧
    Faultless backends config document earlier front ∧
      Fault backends config document (earlier ++ front) term error

private theorem failsFirst_cons_iff {terms : List Term} :
    FailsFirst backends config document earlier (term :: terms) error ↔
      Fault backends config document earlier term error ∨
        (∀ other, ¬Fault backends config document earlier term other) ∧
          FailsFirst backends config document (earlier ++ [term]) terms error := by
  constructor
  · rintro ⟨front, next, behind, split, faultless, fault⟩
    cases front with
    | nil =>
        obtain ⟨rfl, rfl⟩ := List.cons.inj split
        exact .inl (by simpa using fault)
    | cons head front =>
        obtain ⟨rfl, inner⟩ := List.cons.inj split
        obtain ⟨here, rest⟩ := faultless_cons_iff.mp faultless
        exact .inr ⟨here, front, next, behind, inner, rest, by simpa using fault⟩
  · rintro (fault | ⟨here, front, next, behind, rfl, rest, fault⟩)
    · exact ⟨[], term, terms, rfl, faultless_nil, by simpa using fault⟩
    · exact ⟨term :: front, next, behind, rfl, faultless_cons_iff.mpr ⟨here, rest⟩,
        by simpa using fault⟩

private theorem Levels.mergeTerms_eq_error_iff {terms : List Term}
    (levels : Levels backends config document earlier merged) :
    mergeTerms config.zipPolicy (Term.resolve backends config.trimText document) merged terms =
        .error error ↔ FailsFirst backends config document earlier terms error := by
  induction terms generalizing earlier merged with
  | nil => simp [mergeTerms, FailsFirst]
  | cons term terms ih =>
      have fault_iff (cause : EvalError) : Fault backends config document earlier term cause ↔ _ :=
        levels.fault_iff
      rw [mergeTerms_cons, failsFirst_cons_iff]
      cases resolved : term.resolve backends config.trimText document with
      | error cause =>
          have only (other : EvalError) :
              Fault backends config document earlier term other ↔ cause = other := by
            simp [fault_iff, resolved]
          simp [only]
      | ok value =>
          dsimp only
          cases joins : joinOnto config.zipPolicy merged value.absentAsNull with
          | error lengths =>
              have only (other : EvalError) :
                  Fault backends config document earlier term other ↔
                    other = .lengthMismatch lengths := by
                simp [fault_iff, resolved, joins]
              simp [only, eq_comm]
          | ok joined =>
              have sound (other : EvalError) :
                  ¬Fault backends config document earlier term other := by
                simp [fault_iff, resolved, joins]
              simp [sound, ih (levels.concat resolved joins)]

theorem Chain.evaluate_eq_error_iff {chain : Chain} :
    chain.evaluate backends config document = .error error ↔
      FailsFirst backends config document [] chain.terms error :=
  levels_nil.mergeTerms_eq_error_iff

private theorem exists_failsFirst {terms : List Term}
    (faulty : ¬Faultless backends config document earlier terms) :
    ∃ error, FailsFirst backends config document earlier terms error := by
  induction terms generalizing earlier with
  | nil => exact absurd faultless_nil faulty
  | cons term terms ih =>
      simp only [failsFirst_cons_iff]
      by_cases here : ∃ error, Fault backends config document earlier term error
      · obtain ⟨error, fault⟩ := here
        exact ⟨error, .inl fault⟩
      · have sound : ∀ error, ¬Fault backends config document earlier term error :=
          not_exists.mp here
        obtain ⟨error, behind⟩ := ih fun rest => faulty (faultless_cons_iff.mpr ⟨sound, rest⟩)
        exact ⟨error, .inr ⟨sound, behind⟩⟩

/-- A chain has a value exactly when none of its terms is faulty. -/
theorem Chain.evaluate_ok_iff {chain : Chain} :
    (∃ value, chain.evaluate backends config document = .ok value) ↔
      Faultless backends config document [] chain.terms := by
  constructor
  · rintro ⟨value, evaluated⟩
    by_contra faulty
    obtain ⟨error, fails⟩ := exists_failsFirst faulty
    rw [Chain.evaluate_eq_error_iff.mpr fails] at evaluated
    contradiction
  · intro faultless
    cases evaluated : chain.evaluate backends config document with
    | ok value => exact ⟨value, rfl⟩
    | error error =>
        obtain ⟨front, term, behind, split, -, fault⟩ := Chain.evaluate_eq_error_iff.mp evaluated
        exact absurd (by simpa using fault) (faultless front term behind split error)

end

/-! ## The chains of a rule -/

/-- The chain is tried in vain: it has a value, but none that counts as a match. -/
def Misses (evaluate : Chain → Except EvalError Value) (chain : Chain) : Prop :=
  ∃ value, evaluate chain = .ok value ∧ value.isSuccess = false

theorem tryChains_cons (evaluate : Chain → Except EvalError Value) (index : Nat) (chain : Chain)
    (chains : List Chain) :
    tryChains evaluate index (chain :: chains) =
      match evaluate chain with
      | .error error => .error error
      | .ok value =>
          if value.isSuccess then
            .ok { value, matchedGroup := some index, attempts := index + 1 }
          else tryChains evaluate (index + 1) chains := by
  rw [tryChains]
  cases evaluate chain <;> rfl

/-- Trying chains stops at the first one that fails, if none before it has a match. -/
theorem tryChains_eq_error_iff {evaluate : Chain → Except EvalError Value} {index : Nat}
    {chains : List Chain} {error : EvalError} :
    tryChains evaluate index chains = .error error ↔
      ∃ before chain after, chains = before ++ chain :: after ∧
        (∀ other ∈ before, Misses evaluate other) ∧ evaluate chain = .error error := by
  induction chains generalizing index with
  | nil => simp [tryChains]
  | cons chain chains ih =>
      rw [tryChains_cons]
      constructor
      · intro failed
        cases evaluated : evaluate chain with
        | error cause =>
            rw [evaluated] at failed
            obtain rfl := Except.error.inj failed
            exact ⟨[], chain, chains, rfl, by simp, evaluated⟩
        | ok value =>
            cases success : value.isSuccess with
            | true => simp [evaluated, success] at failed
            | false =>
                simp only [evaluated, success, Bool.false_eq_true, if_false] at failed
                obtain ⟨before, other, after, rfl, miss, fails⟩ := ih.mp failed
                refine ⟨chain :: before, other, after, rfl, ?_, fails⟩
                exact List.forall_mem_cons.mpr ⟨⟨value, evaluated, success⟩, miss⟩
      · rintro ⟨before, other, after, split, miss, fails⟩
        cases before with
        | nil =>
            obtain ⟨rfl, rfl⟩ := List.cons.inj split
            rw [fails]
        | cons head before =>
            obtain ⟨rfl, rfl⟩ := List.cons.inj split
            obtain ⟨⟨value, evaluated, failure⟩, rest⟩ := List.forall_mem_cons.mp miss
            simp only [evaluated, failure, Bool.false_eq_true, if_false]
            exact ih.mpr ⟨before, other, after, rfl, rest, fails⟩

private theorem exists_tryChains_eq_error {evaluate : Chain → Except EvalError Value} {index : Nat}
    {before after : List Chain} {chain : Chain} {error : EvalError}
    (vain : ∀ other ∈ before, ¬∃ value, evaluate other = .ok value ∧ value.isSuccess = true)
    (fails : evaluate chain = .error error) :
    ∃ cause, tryChains evaluate index (before ++ chain :: after) = .error cause := by
  induction before generalizing index with
  | nil =>
      refine ⟨error, ?_⟩
      rw [List.nil_append, tryChains_cons, fails]
  | cons head before ih =>
      obtain ⟨here, rest⟩ := List.forall_mem_cons.mp vain
      rw [List.cons_append, tryChains_cons]
      cases evaluated : evaluate head with
      | error cause => exact ⟨cause, rfl⟩
      | ok value =>
          have failure : value.isSuccess = false := by
            by_contra success
            exact here ⟨value, evaluated, by simpa using success⟩
          simpa [failure] using ih rest

section

variable {backends : Backends Tree} {config : EngineConfig} {document : Document Tree}
  {rule : Rule} {error : EvalError}

private theorem misses_iff {chain : Chain} :
    Misses (Chain.evaluate backends config document) chain ↔
      Faultless backends config document [] chain.terms ∧
        ¬chain.Succeeds backends config document := by
  constructor
  · rintro ⟨value, evaluated, failure⟩
    refine ⟨Chain.evaluate_ok_iff.mp ⟨value, evaluated⟩, ?_⟩
    rintro ⟨other, same, success⟩
    obtain rfl := Except.ok.inj (evaluated.symm.trans same)
    rw [failure] at success
    contradiction
  · rintro ⟨faultless, vain⟩
    obtain ⟨value, evaluated⟩ := Chain.evaluate_ok_iff.mpr faultless
    refine ⟨value, evaluated, ?_⟩
    by_contra success
    exact vain ⟨value, evaluated, by simpa using success⟩

namespace Point

theorem FirstFault.evaluate_eq_error {point : Point}
    (fault : point.FirstFault backends config document rule error) :
    rule.evaluate backends config document = .error error := by
  obtain ⟨⟨⟨behind, after, split⟩, vain⟩, faulty, first⟩ := fault
  refine tryChains_eq_error_iff.mpr ⟨point.chains, _, after, split, fun chain member => ?_, ?_⟩
  · refine misses_iff.mpr ⟨fun front term rest inner other here => ?_, vain chain member⟩
    obtain ⟨left, right, around⟩ := List.append_of_mem member
    have before : Before { chains := left, terms := front, term } point :=
      .inl ⟨chain, right, around, ⟨rest, by simp [inner]⟩⟩
    exact first _ before other (by simpa [Faulty] using here)
  · refine Chain.evaluate_eq_error_iff.mpr ⟨point.terms, point.term, behind, rfl, ?_, ?_⟩
    · intro front term rest inner other here
      have before : Before { chains := point.chains, terms := front, term } point :=
        .inr ⟨rfl, ⟨rest, by simp [inner]⟩⟩
      exact first _ before other (by simpa [Faulty] using here)
    · simpa [Faulty] using faulty

theorem exists_firstFault (failed : rule.evaluate backends config document = .error error) :
    ∃ point : Point, point.FirstFault backends config document rule error := by
  obtain ⟨before, ⟨terms⟩, after, split, miss, fails⟩ := tryChains_eq_error_iff.mp failed
  obtain ⟨front, term, behind, rfl, faultless, fault⟩ := Chain.evaluate_eq_error_iff.mp fails
  refine ⟨{ chains := before, terms := front, term }, ⟨⟨behind, after, split⟩, fun chain member =>
    (misses_iff.mp (miss chain member)).2⟩, by simpa [Faulty] using fault, ?_⟩
  rintro earlier (⟨chain, rest, around, inner⟩ | ⟨-, inner⟩) other faulty
  · have member : chain ∈ before := by simp [show before = _ from around]
    obtain ⟨tail, same⟩ := inner
    have sound := (misses_iff.mp (miss chain member)).1
    exact sound earlier.terms earlier.term tail (by simpa using same.symm) other faulty
  · obtain ⟨tail, same⟩ := inner
    exact faultless earlier.terms earlier.term tail (by simpa using same.symm) other faulty

private theorem Visited.exists_evaluate_eq_error {point : Point}
    (visited : point.Visited backends config document rule)
    (faulty : point.Faulty backends config document error) :
    ∃ cause, rule.evaluate backends config document = .error cause := by
  obtain ⟨⟨behind, after, split⟩, vain⟩ := visited
  have broken : ¬Faultless backends config document [] (point.terms ++ point.term :: behind) :=
    fun faultless => faultless point.terms point.term behind rfl error faulty
  obtain ⟨cause, fails⟩ := exists_failsFirst broken
  rw [Rule.evaluate, split]
  exact exists_tryChains_eq_error vain (Chain.evaluate_eq_error_iff.mpr fails)

end Point

/-- Only under the strict policy can lengths be the reason of a failure. -/
theorem Rule.zipPolicy_of_lengthMismatch {lengths : LengthMismatch}
    (failed : rule.evaluate backends config document = .error (.lengthMismatch lengths)) :
    config.zipPolicy = .error := by
  obtain ⟨point, fault⟩ := Point.exists_firstFault failed
  cases fault.faulty with
  | uneven strict => exact strict

/-- Evaluation fails exactly when a term that it visits is faulty, and for the reason of the first
such term, whatever stands behind it.  Where lengths need not agree, a rule whose terms all fit the
document and are not refused has an outcome. -/
theorem Rule.evaluate_eq_error_iff_firstFault (backends : Backends Tree) (config : EngineConfig)
    (document : Document Tree) (rule : Rule) :
    (∀ error, rule.evaluate backends config document = .error error ↔
        ∃ point : Point, point.FirstFault backends config document rule error) ∧
      ((∃ error, rule.evaluate backends config document = .error error) ↔
        ∃ (point : Point) (error : EvalError), point.Visited backends config document rule ∧
          point.Faulty backends config document error) ∧
      (∀ (point : Point) (error : EvalError),
        point.FirstFault backends config document rule error →
          ∀ other : Rule, point.In other →
            other.evaluate backends config document = .error error) ∧
      (config.zipPolicy ≠ .error →
        (∀ chain ∈ rule.groups, ∀ term ∈ chain.terms, term.selector.kind.Fits document.kind ∧
          ∀ error, ¬term.selector.Refused backends document error) →
        ∃ outcome, rule.evaluate backends config document = .ok outcome) := by
  refine ⟨fun error => ⟨Point.exists_firstFault, fun ⟨point, fault⟩ => fault.evaluate_eq_error⟩,
    ?_, ?_, ?_⟩
  · constructor
    · rintro ⟨error, failed⟩
      obtain ⟨point, fault⟩ := Point.exists_firstFault failed
      exact ⟨point, error, fault.visited, fault.faulty⟩
    · rintro ⟨point, error, visited, faulty⟩
      exact visited.exists_evaluate_eq_error faulty
  · rintro point error ⟨⟨-, vain⟩, faulty, first⟩ other inside
    have fault : point.FirstFault backends config document other error :=
      ⟨⟨inside, vain⟩, faulty, first⟩
    exact fault.evaluate_eq_error
  · intro lenient sound
    cases evaluated : rule.evaluate backends config document with
    | ok outcome => exact ⟨outcome, rfl⟩
    | error error =>
        obtain ⟨point, ⟨⟨behind, after, split⟩, -⟩, faulty, -⟩ := Point.exists_firstFault evaluated
        obtain ⟨fits, accepted⟩ := sound { terms := point.terms ++ point.term :: behind }
          (by simp [split]) point.term (by simp)
        cases faulty with
        | misfit unfit => exact absurd fits unfit
        | refused refuses => exact absurd refuses (accepted _)
        | uneven strict => exact absurd strict lenient

/-- Two lists of different lengths in the second chain: what stands behind them has no bearing on
the failure, and shorter lists may be filled up instead. -/
theorem Rule.evaluate_of_uneven_lists :
    let found (query : String) : List (Option String) :=
      if query = ".a" then [] else if query = ".b" then [some "1", none] else [none, some "x", none]
    let backends : Backends Unit :=
      { markup := { load := fun _ => (), queryAll := fun _ query _ => .ok (found query) }
        path := jsonPathBackend }
    let document : Document Unit := .html "" ()
    let first : Chain := { terms := [{ selector := .css ".a" .text }] }
    let left : Term := { selector := .css ".b" .text }
    let right : Term := { selector := .css ".c" .text }
    let rule : Rule := { groups := [first, { terms := [left, right, { selector := .json "[" }] }] }
    let other : Rule := { groups := [first, { terms := [left, right] }, first] }
    let error : EvalError := .lengthMismatch { left := 2, right := 3 }
    rule.evaluate backends { zipPolicy := .error } document = .error error ∧
      other.evaluate backends { zipPolicy := .error } document = .error error ∧
        ∃ outcome, other.evaluate backends { zipPolicy := .pad } document = .ok outcome := by
  intro found backends document first left right rule other error
  let strict : EngineConfig := { zipPolicy := .error }
  let point : Point := { chains := [first], terms := [left], term := right }
  have alone (term : Term) (value : Value)
      (resolved : term.resolve backends true document = .ok value) (cause : EvalError) :
      ¬Fault backends strict document [] term cause := by
    simp [levels_nil.fault_iff, strict, resolved, joinOnto]
  have single {terms : List Term} {term only : Term} (inner : terms ++ [term] <+: [only]) :
      terms = [] ∧ term = only := by
    cases terms <;> simp_all
  have fault : point.FirstFault backends strict document rule error := by
    refine ⟨⟨⟨_, [], rfl⟩, ?_⟩, ?_, ?_⟩
    · rintro chain member ⟨value, evaluated, success⟩
      obtain rfl := List.mem_singleton.mp member
      obtain rfl : Value.null = value := Except.ok.inj evaluated
      contradiction
    · exact .uneven rfl List.mem_cons_self ⟨_, rfl, by simp, rfl⟩ ⟨_, rfl, by simp, rfl⟩ (by decide)
    · rintro ⟨chains, terms, term⟩ (⟨chain, rest, around, inner⟩ | ⟨-, inner⟩) cause faulty
      · obtain ⟨rfl, rfl⟩ : chains = [] ∧ first = chain := by
          cases chains <;> simp_all [point]
        obtain ⟨rfl, rfl⟩ := single inner
        exact alone _ (.sequence []) rfl cause faulty
      · obtain ⟨rfl, rfl⟩ := single inner
        exact alone _ (.sequence [.string "1", .null]) rfl cause faulty
  have all := evaluate_eq_error_iff_firstFault backends strict document rule
  refine ⟨(all.1 error).mpr ⟨point, fault⟩, all.2.2.1 point error fault other ⟨_, _, rfl⟩, ?_⟩
  have lenient := evaluate_eq_error_iff_firstFault backends { zipPolicy := .pad } document other
  refine lenient.2.2.2 ?_ ?_
  · decide
  · simp [other, first, left, right, SelectorKind.Fits, Selector.kind, Document.kind, document,
      Selector.Refused, backends]

end

end Gleaner
