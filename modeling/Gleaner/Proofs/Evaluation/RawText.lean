import Gleaner.Engine
import Gleaner.Markup
import Gleaner.Proofs.Evaluation.Fallback
import Gleaner.Proofs.Evaluation.Operands
import Gleaner.Proofs.Value.Narrowing

/-!
# Rules on raw text

Patterns and literals look at nothing but the raw text of a document.  A rule that is made of them
has one outcome for each raw text, whatever the document is otherwise, and whatever the backends
and the choices of the engine are.
-/

namespace Gleaner

/-- The selector looks at the raw text of a document, or at nothing. -/
def Selector.Raw (selector : Selector) : Prop :=
  selector.kind = .regex ∨ selector.kind = .text

instance (selector : Selector) : Decidable selector.Raw :=
  inferInstanceAs (Decidable (_ ∨ _))

/-- All selectors of the rule look at raw text at most. -/
def Rule.Raw (rule : Rule) : Prop :=
  ∀ chain ∈ rule.groups, ∀ term ∈ chain.terms, term.selector.Raw

instance (rule : Rule) : Decidable rule.Raw :=
  inferInstanceAs (Decidable (∀ chain ∈ rule.groups, ∀ term ∈ chain.terms, term.selector.Raw))

/-- What a selector finds in a raw text, in which there are neither elements nor members. -/
def Selector.inText (source : String) : Selector → Primitive
  | .regex pattern => .ofOption (pattern.firstCapture source)
  | .text literal => .string literal
  | .css _ _ => .null
  | .json _ => .null

/-- What a term finds in a raw text, narrowed by its pattern. -/
def Term.inText (source : String) (term : Term) : Primitive :=
  match term.sanitizer with
  | some pattern => (term.selector.inText source).sanitize pattern
  | none => term.selector.inText source

/-- What the terms of a chain find in a raw text, joined. -/
def Chain.inText (source : String) (chain : Chain) : Primitive :=
  .joinAll (chain.terms.map (Term.inText source))

/-! ## Terms -/

/-- The primitive is a string or nothing. -/
def Primitive.IsText (item : Primitive) : Prop :=
  item = .null ∨ ∃ text, item = .string text

private theorem Primitive.isText_ofOption (text : Option String) : (ofOption text).IsText := by
  cases text with
  | none => exact .inl rfl
  | some text => exact .inr ⟨text, rfl⟩

private theorem Selector.isText_inText (source : String) (selector : Selector) :
    (selector.inText source).IsText := by
  cases selector with
  | regex pattern => exact Primitive.isText_ofOption _
  | text literal => exact .inr ⟨literal, rfl⟩
  | css query reading => exact .inl rfl
  | json path => exact .inl rfl

private theorem Term.isText_inText (source : String) (term : Term) :
    (term.inText source).IsText := by
  unfold Term.inText
  split
  · rw [Primitive.sanitize_eq]
    exact Primitive.isText_ofOption _
  · exact term.selector.isText_inText source

section

variable {Tree : Type} {document : Document Tree} {source : String}

private theorem Selector.resolve_of_raw {selector : Selector} (raw : selector.Raw)
    (known : document.rawText? = some source) (backends : Backends Tree) (trimText : Bool) :
    selector.resolve backends trimText document = .ok (.scalar (selector.inText source)) := by
  cases selector with
  | regex pattern => simp [Selector.resolve, known, Selector.inText]
  | text literal => rfl
  | css query reading => simp [Selector.Raw, Selector.kind] at raw
  | json path => simp [Selector.Raw, Selector.kind] at raw

private theorem Term.resolve_of_raw {term : Term} (raw : term.selector.Raw)
    (known : document.rawText? = some source) (backends : Backends Tree) (trimText : Bool) :
    term.resolve backends trimText document = .ok (.scalar (term.inText source)) := by
  rw [Term.resolve, Selector.resolve_of_raw raw known, Except.map, Term.inText]
  cases term.sanitizer <;> rfl

/-! ## Chains -/

private theorem joinAll_singleton_of_isText {item : Primitive} (text : item.IsText) :
    Primitive.joinAll [item] = item := by
  obtain rfl | ⟨text, rfl⟩ := text
  · rfl
  · simp [Primitive.joinAll, String.join_cons]

private theorem merged_scalars {items : List Primitive} (texts : ∀ item ∈ items, item.IsText)
    (policy : ZipPolicy) :
    Operands.merged policy (items.map .scalar) = .ok (.scalar (.joinAll items)) := by
  have scalars : Operands.lengths (items.map .scalar) = [] := by
    rw [Operands.lengths_eq_nil_iff]
    simp
  have places : Operands.itemsAt (items.map .scalar) 0 = items := by
    simp [Operands.itemsAt, List.filterMap_map, Function.comp_def, Value.item?]
  have joined : Operands.joined policy (items.map .scalar) = .ok (.scalar (.joinAll items)) := by
    rw [Operands.joined_of_scalars scalars, places]
  cases items with
  | nil => exact joined
  | cons first others =>
      cases others with
      | nil =>
          rw [joinAll_singleton_of_isText (texts first List.mem_cons_self)]
          rfl
      | cons second others => exact joined

theorem Chain.evaluate_of_raw {chain : Chain} (raw : ∀ term ∈ chain.terms, term.selector.Raw)
    (known : document.rawText? = some source) (backends : Backends Tree) (config : EngineConfig) :
    chain.evaluate backends config document = .ok (.scalar (chain.inText source)) := by
  have found : chain.Finds backends config document
      ((chain.terms.map (Term.inText source)).map .scalar) := by
    rw [Chain.Finds, List.map_map, List.forall₂_map_right_iff, List.forall₂_same]
    exact fun term member => ⟨_, Term.resolve_of_raw (raw term member) known _ _, rfl⟩
  have texts : ∀ item ∈ chain.terms.map (Term.inText source), item.IsText := by
    simp only [List.forall_mem_map]
    exact fun term _ => term.isText_inText source
  rw [Chain.evaluate, mergeTerms_eq_merged found, merged_scalars texts]
  rfl

end

/-! ## Rules -/

private theorem tryChains_congr {left right : Chain → Except EvalError Value} {chains : List Chain}
    (same : ∀ chain ∈ chains, left chain = right chain) (index : Nat) :
    tryChains left index chains = tryChains right index chains := by
  induction chains generalizing index with
  | nil => rfl
  | cons chain chains ih =>
      obtain ⟨here, rest⟩ := List.forall_mem_cons.mp same
      rw [tryChains_cons, tryChains_cons, here]
      simp only [ih rest]

private theorem exists_tryChains_eq_ok (value : Chain → Value) (index : Nat) (chains : List Chain) :
    ∃ outcome, tryChains (fun chain => .ok (value chain)) index chains = .ok outcome := by
  cases tried : tryChains (fun chain => .ok (value chain)) index chains with
  | ok outcome => exact ⟨outcome, rfl⟩
  | error error =>
      obtain ⟨before, chain, after, -, -, failed⟩ := tryChains_eq_error_iff.mp tried
      contradiction

/-- A rule of patterns and literals has the same outcome, and never fails, on markup and on plain
text with the same raw text, whatever the trees of the markup are, and whatever backends and choices
the engine has: the first of its chains that is something when its terms are read off the raw text
and joined. -/
theorem Rule.evaluate_raw_alike {rule : Rule} (raw : rule.Raw) (source : String) :
    ∃ outcome, FirstMatch (fun chain => .ok (.scalar (chain.inText source))) rule.groups outcome ∧
      ∀ (Tree : Type) (engine : Engine Tree),
        (∃ document, engine.load source (some .html) = .ok document ∧ document.kind = .html ∧
          engine.evaluate document rule = .ok outcome) ∧
        engine.evaluate (.text source) rule = .ok outcome ∧
        ∀ tree, engine.evaluate (.html source tree) rule = .ok outcome := by
  obtain ⟨outcome, tried⟩ :=
    exists_tryChains_eq_ok (fun chain => .scalar (chain.inText source)) 0 rule.groups
  refine ⟨outcome, tryChains_eq_ok_iff.mp tried, fun Tree engine => ?_⟩
  have evaluated (document : Document Tree) (known : document.rawText? = some source) :
      engine.evaluate document rule = .ok outcome := by
    rw [← tried]
    exact tryChains_congr (fun chain member =>
      Chain.evaluate_of_raw (raw chain member) known engine.backends engine.config) 0
  exact ⟨⟨engine.loadMarkup source, rfl, rfl, evaluated _ rfl⟩, evaluated _ rfl,
    fun tree => evaluated _ rfl⟩

/-- A pattern that matches nowhere, and behind it a label joined with what a narrowed pattern finds:
in markup that is parsed, in markup with trees of another kind, and in plain text. -/
theorem Rule.evaluate_raw_alike_of_label :
    ∃ rule, Rule.parse "@regex:b+ || @text:n: && @regex:a[0-9]+##[0-9]" = .ok rule ∧ rule.Raw ∧
      let source := "<p>a12</p>"
      let outcome : Outcome :=
        { value := .scalar (.string "n: 1"), matchedGroup := some 1, attempts := 2 }
      let plain : Engine Html.Tree := .build { trimText := false } standardBackends
      let strict (backends : Backends Unit) : Engine Unit :=
        .build { zipPolicy := .error, cacheCapacity := some 0 } backends
      (∃ document, plain.load source (some .html) = .ok document ∧
          plain.evaluate document rule = .ok outcome) ∧
        plain.evaluate (.text source) rule = .ok outcome ∧
        ∀ backends, (strict backends).evaluate (.html source ()) rule = .ok outcome := by
  have computed : ((Rule.parse "@regex:b+ || @text:n: && @regex:a[0-9]+##[0-9]").toOption.any
      fun rule => decide (rule.Raw ∧
        Rule.evaluate standardBackends {} (.text "<p>a12</p>") rule =
          .ok { value := .scalar (.string "n: 1"), matchedGroup := some 1, attempts := 2 })) =
      true := by
    decide +kernel
  cases read : Rule.parse "@regex:b+ || @text:n: && @regex:a[0-9]+##[0-9]" with
  | error cause => simp [read, Except.toOption] at computed
  | ok rule =>
      rw [read] at computed
      obtain ⟨raw, evaluated⟩ := of_decide_eq_true computed
      obtain ⟨outcome, -, same⟩ := Rule.evaluate_raw_alike raw "<p>a12</p>"
      obtain rfl := Except.ok.inj ((same _ (.build {} standardBackends)).2.1.symm.trans evaluated)
      refine ⟨rule, rfl, raw, ?_, (same _ _).2.1, fun backends => (same _ _).2.2 ()⟩
      obtain ⟨⟨document, loaded, -, found⟩, -⟩ :=
        same _ (.build { trimText := false } standardBackends)
      exact ⟨document, loaded, found⟩

end Gleaner
