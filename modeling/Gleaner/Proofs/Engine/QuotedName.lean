import Gleaner.Proofs.Engine.Agreement
import Gleaner.Proofs.Evaluation.Faults
import Gleaner.Proofs.Json.Path.Nodes
import Gleaner.Proofs.Rule.Concatenation
import Gleaner.Proofs.Rule.OddRuns
import Gleaner.Proofs.Value.Join

/-!
# Members under quoted names

A rule can quote the name of a member in its path.  The rule finds the member unless the name holds
a combinator that a mark or the opening of a term follows: a rule is cut there, quoted or not, and
the quotation is left open.  An odd run of three or more number signs leaves it open as well, as the
last two signs are read as a separator.
-/

namespace Gleaner

namespace Json

/-- What stands in front of a quoted name in its path. -/
def quoteOpening : List Char :=
  ['$', '[', '\'']

/-- The path to the member under a name, which is quoted. -/
def quotedPath (name : List Char) : List Char :=
  quoteOpening ++ (name ++ ['\'', ']'])

end Json

/-- The rule whose path quotes the name. -/
def Rule.quoting (name : String) : String :=
  "@json:$['" ++ Rule.escaped name ++ "']"

/-- The term of the path that quotes the name. -/
def Rule.quotingTerm (name : String) : Term :=
  .json (String.ofList (Json.quotedPath name.toList))

/-! ## Paths -/

namespace Json

theorem compile_quoted {name : String} (closed : '\'' ∉ name.toList) :
    Path.compile (String.ofList (quotedPath name.toList)) = .ok [.key name] := by
  have inside := BracketSpelling.quoted (.inl rfl) closed
  have spelt := StepsSpelling.cons (.bracket inside) .nil
  rw [Path.compile_eq_ok_iff, String.toList_ofList]
  simpa [quotedPath, quoteOpening] using PathSpelling.rooted (.steps spelt)

private theorem StepSpelling.ne_open_quote {rest word text : List Char} {step : Step}
    (spelt : StepSpelling word step) (unclosed : '\'' ∉ rest) :
    word ++ text ≠ '[' :: '\'' :: rest := by
  intro same
  cases spelt with
  | dot bare => simp at same
  | @bracket inner step inside =>
      have behind : inner ++ (']' :: text) = '\'' :: rest := by
        simpa using (List.cons.inj same).2
      cases inside with
      | wildcard => simp at behind
      | index numeral =>
          have other := numeral.head_ne (']' :: text) (c := '\'') rfl (by decide)
          simp [behind] at other
      | @quoted mark name quote closed =>
          obtain ⟨rfl, after⟩ := List.cons.inj behind
          have closing : '\'' ∈ rest := by simp [← after]
          exact unclosed closing

private theorem RelativeSpelling.ne_open_quote {rest text : List Char} {path : Path}
    (spelt : RelativeSpelling text path) (unclosed : '\'' ∉ rest) :
    text ≠ '[' :: '\'' :: rest := by
  intro same
  cases spelt with
  | steps steps =>
      cases steps with
      | nil => contradiction
      | cons first others => exact first.ne_open_quote unclosed same
  | named bare steps =>
      obtain ⟨c, name, rfl⟩ := List.exists_cons_of_ne_nil bare.1
      obtain ⟨rfl, -⟩ := List.cons.inj same
      exact (bare.2 '[' List.mem_cons_self).2.1 rfl

private theorem compile_ne_ok_of_open_quote {rest : List Char} (unclosed : '\'' ∉ rest)
    (path : Path) : Path.compile (String.ofList (quoteOpening ++ rest)) ≠ .ok path := by
  rw [ne_eq, Path.compile_eq_ok_iff, String.toList_ofList]
  intro spelt
  cases spelt with
  | rooted behind => exact behind.ne_open_quote unclosed rfl
  | rootless unrooted whole => exact unrooted rfl

end Json

/-! ## The rule that quotes a name -/

namespace Rule

section

variable {text : List Char}

private theorem escape_quoted (text : List Char) :
    escape (Json.quotedPath text) = Json.quoteOpening ++ (escape text ++ ['\'', ']']) := by
  have closing : escape (text ++ ['\'', ']']) = escape text ++ ['\'', ']'] :=
    escape_append_cons text [']'] (by decide)
  simp only [Json.quotedPath, Json.quoteOpening, List.cons_append, List.nil_append]
  rw [escape_other _ (by decide), escape_other _ (by decide), escape_other _ (by decide), closing]

private theorem getLast?_quoted (text : List Char) :
    (Json.quotedPath text).getLast? = some ']' := by
  simp [Json.quotedPath, List.getLast?_append]

/-- A path from the root with no combinator outside quotes is read as it is if it ends in neither a
blank nor a combinator. -/
private theorem readable_rooted {path : List Char} {c : Char} (root : path.head? = some '$')
    (last : path.getLast? = some c) (ends : c = ']' ∨ c = '#')
    (outside : spacedOutside none path = false) :
    (Selector.json (String.ofList path)).Readable := by
  have nonempty : path ≠ [] := by
    rintro rfl
    contradiction
  have trimmed : Text.Trimmed path := by
    refine Text.trimmed_of_bare (fun d first => ?_) (fun d final => ?_)
    · obtain rfl : '$' = d := Option.some.inj (root.symm.trans first)
      decide
    · obtain rfl : c = d := Option.some.inj (last.symm.trans final)
      rcases ends with rfl | rfl <;> decide
  have plain : hasBareCombinator path = false := by
    refine (hasBareCombinator_eq_false_iff _).mpr ⟨fun combinator marked => ?_, outside⟩
    rw [trimmed.trimEnd_eq] at marked
    obtain ⟨front, rfl⟩ := marked
    rcases ends with rfl | rfl <;> cases combinator <;>
      simp [Combinator.mark, List.getLast?_append] at last
  simp only [Selector.Readable, String.toList_ofList]
  exact ⟨nonempty, trimmed, plain⟩

private theorem pairedSigns_quoted (paired : PairedSigns text) :
    PairedSigns (Json.quotedPath text) := by
  have closing : PairedSigns (text ++ ['\'', ']']) :=
    (pairedSigns_append_cons _ _ (by decide)).mpr ⟨paired, pairedSigns_of_notMem (by decide)⟩
  simp only [Json.quotedPath, Json.quoteOpening, List.cons_append, List.nil_append]
  rw [pairedSigns_cons_of_ne _ (by decide), pairedSigns_cons_of_ne _ (by decide),
    pairedSigns_cons_of_ne _ (by decide)]
  exact closing

private theorem unbroken_quoted_iff : Unbroken (Json.quotedPath text) ↔ Unbroken text := by
  have closing : Unbroken [']'] := by
    simpa using (unbroken_append_iff (show ' ' ∉ [']'] by decide)).mpr unbroken_nil
  rw [Json.quotedPath, unbroken_append_iff (by decide),
    unbroken_append_cons_iff inert_quote (by decide) (by decide), and_iff_left closing]

end

section

variable {name : String}

private theorem body_quotingTerm (name : String) :
    (quotingTerm name).selector.body = Json.quotedPath name.toList := by
  simp [quotingTerm, Term.json, Selector.body]

private theorem written_quotingTerm (name : String) :
    (quotingTerm name).written = SelectorKind.json.tag.toList ++
      (Json.quoteOpening ++ (escape name.toList ++ ['\'', ']'])) := by
  rw [Term.written, body_quotingTerm, escape_quoted]
  rfl

private theorem toList_quoting (name : String) :
    (quoting name).toList = (quotingTerm name).written := by
  have tag : "@json:$['".toList = SelectorKind.json.tag.toList ++ Json.quoteOpening := rfl
  rw [written_quotingTerm, quoting, String.toList_append, String.toList_append, tag]
  simp [escaped]

private theorem readable_quotingTerm (closed : '\'' ∉ name.toList) :
    (quotingTerm name).Readable := by
  have outside : spacedOutside none (Json.quotedPath name.toList) = false :=
    spacedOutside_quotation closed [']']
  exact ⟨readable_rooted rfl (getLast?_quoted _) (.inl rfl) outside,
    by simp [quotingTerm, Term.json]⟩

private theorem legible_quotingTerm (paired : PairedSigns name.toList) :
    (quotingTerm name).Legible := by
  have whole := pairedSigns_quoted paired
  rw [← body_quotingTerm] at whole
  exact whole

private theorem unbroken_body_quotingTerm :
    Unbroken (quotingTerm name).selector.body ↔ Unbroken name.toList := by
  rw [body_quotingTerm, unbroken_quoted_iff]

private theorem whole_written_quotingTerm (closed : '\'' ∉ name.toList)
    (unbroken : Unbroken name.toList) : Whole false (quotingTerm name).written := by
  have whole : Whole false (quotingTerm name).selector.body :=
    { unbroken := unbroken_body_quotingTerm.mpr unbroken
      closed := fun combinator =>
        closed_of_readable (readable_quotingTerm closed).1 (.inr rfl) combinator false }
  exact (whole_written_iff false _).mpr whole

/-- The rule is one piece if no combinator in the name cuts it. -/
theorem parse_quoting_of_unbroken (closed : '\'' ∉ name.toList) (unbroken : Unbroken name.toList) :
    parse (quoting name) =
      (termOf (quotingTerm name).written).map fun term => .ofChain (.ofTerm term) := by
  have opens := opensTerm_written (quotingTerm name)
  have whole := whole_written_quotingTerm closed unbroken
  rw [← toList_quoting] at opens whole ⊢
  exact parse_of_whole opens whole

theorem parse_quoting (closed : '\'' ∉ name.toList) (paired : PairedSigns name.toList)
    (unbroken : Unbroken name.toList) :
    parse (quoting name) = .ok (.ofChain (.ofTerm (quotingTerm name))) := by
  rw [parse_quoting_of_unbroken closed unbroken,
    termOf_of_legible (readable_quotingTerm closed) (legible_quotingTerm paired)]
  rfl

end

/-! ## An odd run of signs in the name -/

section

variable {name : String} {text before after : List Char} {pairs : Nat}

theorem LastOddRun.quoted (run : LastOddRun text before pairs after) :
    LastOddRun (Json.quotedPath text) (Json.quoteOpening ++ before) pairs
      (after ++ ['\'', ']']) where
  split := by simp [Json.quotedPath, run.split]
  opens := by
    cases before using List.reverseRecOn with
    | nil => decide
    | append_singleton init c => simpa using run.opens
  closes := by
    cases after with
    | nil => decide
    | cons c rest => simpa using run.closes
  paired := (pairedSigns_append_cons _ _ (by decide)).mpr
    ⟨run.paired, pairedSigns_of_notMem (by decide)⟩

/-- What is left of the path that quotes a name: the run gives two signs to the separator. -/
def cutPath (before : List Char) (pairs : Nat) : List Char :=
  Json.quoteOpening ++ (before ++ List.replicate (2 * pairs) '#' ++ ['\\', '#'])

private theorem readable_cutPath (closed : '\'' ∉ before) (pairs : Nat) :
    (Selector.json (String.ofList (cutPath before pairs))).Readable := by
  have last : (cutPath before pairs).getLast? = some '#' := by simp [cutPath]
  have absent : '\'' ∉ before ++ List.replicate (2 * pairs) '#' ++ ['\\', '#'] := by
    simp [closed]
  refine readable_rooted rfl last (.inr rfl) ?_
  -- A closing mark behind the path would leave no combinator outside either.
  by_contra spaced
  have longer := spacedOutside_of_append (Bool.not_eq_false _ ▸ spaced) ['\'']
  rw [cutPath, List.append_assoc] at longer
  exact absurd (longer.symm.trans (spacedOutside_quotation absent [])) (by decide)

/-- What stands behind the run narrows a path that ends in it. -/
theorem termOf_written_of_lastOddRun (closed : '\'' ∉ name.toList)
    (run : LastOddRun name.toList before pairs after) :
    termOf (quotingTerm name).written =
      (Pattern.ofTerm (String.ofList (after ++ ['\'', ']']))).map fun pattern =>
        { selector := .json (String.ofList (cutPath before pairs))
          sanitizer := some pattern } := by
  have written : (quotingTerm name).written =
      SelectorKind.json.tag.toList ++ escape (Json.quotedPath name.toList) := by
    rw [Term.written, body_quotingTerm]
    rfl
  have split := (splitSanitizer_eq_some_iff _ _ _).mpr (run.quoted.cutLast_escape false)
  have unescapes : unescape (escape (Json.quoteOpening ++ before ++
      List.replicate (2 * pairs) '#') ++ ['\\', '#']) = cutPath before pairs := by
    rw [unescape_append (by decide), unescape_escape]
    simp [cutPath, unescape]
  have absent : '\'' ∉ before := fun member => closed (by simp [run.split, member])
  have selected := selectorOf_body (readable_cutPath absent pairs) (quotingTerm name).written
  rw [Selector.body, String.toList_ofList, Selector.kind] at selected
  have nonempty : after ++ ['\'', ']'] ≠ [] := by simp
  have narrowed := sanitizerOf_escape nonempty (quotingTerm name).written
  rw [termOf, written, splitTag?_append, ← written]
  simp only [split, unescapes, selected, narrowed, bind, Except.bind]
  cases Pattern.ofTerm (String.ofList (after ++ ['\'', ']'])) <;> rfl

end

/-! ## A quotation that is cut -/

private theorem selector_of_open_quote {rest : List Char} {term : Term}
    (read : termOf (SelectorKind.json.tag.toList ++ (Json.quoteOpening ++ rest)) = .ok term)
    (unclosed : '\'' ∉ rest) :
    ∃ inner, term.selector = .json (String.ofList (Json.quoteOpening ++ inner)) ∧ '\'' ∉ inner := by
  obtain ⟨kind, text, tagged, selected, -⟩ := (termOf_eq_ok_iff _ term).mp read
  obtain ⟨rfl, rfl⟩ := tag_append_inj tagged
  -- A separator can only stand behind the opening.
  have front : ∃ body, (splitSanitizer (Json.quoteOpening ++ rest)).1 = Json.quoteOpening ++ body ∧
      '\'' ∉ body := by
    have whole := separated_splitSanitizer (Json.quoteOpening ++ rest)
    cases raw : (splitSanitizer (Json.quoteOpening ++ rest)).2 with
    | none =>
        rw [raw, separated] at whole
        exact ⟨rest, whole, unclosed⟩
    | some after =>
        rw [raw, separated] at whole
        obtain ⟨body, split, rfl⟩ := eq_append_of_append_cons (by decide) whole
        exact ⟨body, split, fun member => unclosed (List.mem_append_left _ member)⟩
  obtain ⟨body, split, absent⟩ := front
  have unescaped : unescape (Json.quoteOpening ++ body) = Json.quoteOpening ++ unescape body := by
    simp only [Json.quoteOpening, List.cons_append, List.nil_append]
    rw [unescape_cons (.inl (by decide)), unescape_cons (.inl (by decide)),
      unescape_cons (.inl (by decide))]
  have dollar : ∀ c, (['$', '['] ++ ['\'']).head? = some c → Text.isBlank c = false := by
    intro c first
    obtain rfl : '$' = c := Option.some.inj first
    decide
  have trimmed : Text.trim (Json.quoteOpening ++ unescape body) =
      Json.quoteOpening ++ Text.trimEnd (unescape body) :=
    Text.trim_append_cons (by decide) dollar _
  rw [split, unescaped] at selected
  obtain ⟨same, source⟩ := readFrom_of_selectorOf selected
  refine ⟨Text.trimEnd (unescape body), ?_, fun member => absent ?_⟩
  · rw [← trimmed]
    generalize term.selector = selector at source same
    cases source with
    | json plain nonempty => rfl
    | css plain nonempty => simp [Selector.kind] at same
    | regex origin nonempty => simp [Selector.kind] at same
    | text => simp [Selector.kind] at same
  · have kept := (Text.trimEnd_prefix_self _).subset member
    exact (unescape_sublist body).subset kept

private theorem selector_of_broken_quoting {name : String} {rule : Rule}
    (closed : '\'' ∉ name.toList) (broken : ¬Unbroken name.toList)
    (read : parse (quoting name) = .ok rule) :
    ∃ term terms chains inner, rule.groups = { terms := term :: terms } :: chains ∧
      term.selector = .json (String.ofList (Json.quoteOpening ++ inner)) ∧ '\'' ∉ inner := by
  obtain ⟨-, -, ⟨first, more⟩, ⟨text, well⟩, all, chains, groups, reads⟩ :=
    (parse_eq_ok_iff _ rule).mp read
  obtain ⟨behind, term, terms, rfl, read_first⟩ := reads.exists_first
  rw [toList_quoting] at text
  cases more with
  | nil =>
      have whole : Whole false (quotingTerm name).written := text ▸ well
      have unbroken := ((whole_written_iff false (quotingTerm name)).mp whole).unbroken
      exact absurd (unbroken_body_quotingTerm.mp unbroken) broken
  | cons entry more =>
      obtain ⟨combinator, next⟩ := entry
      have cut : first ++ ' ' :: (combinator.mark ++ ' ' :: joined next more) =
          (SelectorKind.json.tag.toList ++ Json.quoteOpening) ++
            (escape name.toList ++ ['\'', ']']) := by
        rw [written_quotingTerm, ← List.append_assoc] at text
        simpa [joined, Combinator.token] using text
      obtain ⟨inner, rfl, inside⟩ := eq_append_of_append_cons (by decide) cut
      have absent : '\'' ∉ escape name.toList := fun member =>
        closed (mem_of_mem_escape (by decide) member)
      -- Behind a mark in the piece no space could follow.
      have unclosed : '\'' ∉ inner := by
        intro member
        obtain ⟨front, back, rfl⟩ := List.append_of_mem member
        rw [List.append_assoc, List.cons_append] at inside
        obtain ⟨middle, -, rest⟩ := eq_append_of_append_cons absent inside.symm
        have space : ' ' ∈ ['\'', ']'] := by simp [rest]
        exact absurd space (by decide)
      rw [Reads, List.append_assoc, segmentOf_tag_append (by decide)] at read_first
      obtain ⟨rest, selected, open_quote⟩ := selector_of_open_quote read_first unclosed
      exact ⟨term, terms, chains, rest, groups, selected, open_quote⟩

end Rule

/-! ## Evaluation -/

private theorem Value.ofJsonMatches_toJson (item : Primitive) :
    ofJsonMatches [item.toJson] = .scalar item := by
  cases item <;> rfl

private theorem Json.select_key {name : String} {members : List (String × Json)} {value : Json}
    (found : member? name members = some value) :
    Path.select [.key name] (object members) = [value] := by
  rw [Path.select_cons, Step.apply, found]
  rfl

section

variable {Tree : Type} {backends : Backends Tree} {name : String} {item : Primitive}

theorem Term.resolve_quotingTerm {members : List (String × Json)} (trimText : Bool)
    (paths : backends.path = jsonPathBackend) (closed : '\'' ∉ name.toList)
    (found : Json.member? name members = some item.toJson) :
    (Rule.quotingTerm name).resolve backends trimText (.json (.object members)) =
      .ok (.scalar item) := by
  have read := Json.evaluate_of_compile (Json.compile_quoted closed) (.object members)
  rw [Json.select_key found] at read
  rw [Term.resolve, Rule.quotingTerm, Term.json, Selector.resolve, paths]
  simp only [read, Except.map, Value.ofJsonMatches_toJson]

private theorem Term.resolve_open_quote {term : Term} {inner : List Char} (trimText : Bool)
    (paths : backends.path = jsonPathBackend)
    (selected : term.selector = .json (String.ofList (Json.quoteOpening ++ inner)))
    (unclosed : '\'' ∉ inner) (root : Json) :
    ∃ cause, term.resolve backends trimText (.json root) = .error (.query cause) := by
  cases read : Json.Path.compile (String.ofList (Json.quoteOpening ++ inner)) with
  | ok path => exact absurd read (Json.compile_ne_ok_of_open_quote unclosed path)
  | error cause =>
      have refused : jsonPathBackend.evaluate root (String.ofList (Json.quoteOpening ++ inner)) =
          .error cause := congrArg (·.map fun path => path.select root) read
      refine ⟨cause, Term.resolve_eq_error_iff.mpr ?_⟩
      rw [selected, Selector.resolve, paths]
      simp only [refused]

end

namespace Engine

variable {Tree : Type} {engine : Engine Tree} {name : String} {item : Primitive}

private theorem plainValue_quoting {members : List (String × Json)}
    (paths : engine.backends.path = jsonPathBackend) (closed : '\'' ∉ name.toList)
    (paired : Rule.PairedSigns name.toList) (unbroken : Rule.Unbroken name.toList)
    (present : item ≠ .null) (found : Json.member? name members = some item.toJson) :
    engine.plainValue (.json (.object members)) (Rule.quoting name) = .ok (.scalar item) := by
  have resolved := Term.resolve_quotingTerm engine.config.trimText paths closed found
  have success : (Value.scalar item).isSuccess = true := by
    simp [Value.isSuccess, Primitive.isNull_of_ne present]
  have alone : Chain.evaluate engine.backends engine.config (.json (.object members))
      (.ofTerm (Rule.quotingTerm name)) = .ok (.scalar item) := by
    rw [Chain.evaluate, Chain.ofTerm, mergeTerms_cons, resolved]
    rfl
  have outcome : engine.evaluate (.json (.object members))
      (.ofChain (.ofTerm (Rule.quotingTerm name))) =
        .ok { value := .scalar item, matchedGroup := some 0, attempts := 1 } := by
    rw [evaluate, Rule.evaluate, Rule.ofChain, tryChains_cons, alone]
    exact if_pos success
  rw [plainValue, Rule.parse_quoting closed paired unbroken]
  simp only [valueOf, outcome]

private theorem plainValue_of_open_quote {text : String} {rule : Rule} {term : Term}
    {terms : List Term} {chains : List Chain} {inner : List Char}
    (paths : engine.backends.path = jsonPathBackend) (read : Rule.parse text = .ok rule)
    (groups : rule.groups = { terms := term :: terms } :: chains)
    (selected : term.selector = .json (String.ofList (Json.quoteOpening ++ inner)))
    (unclosed : '\'' ∉ inner) (root : Json) :
    ∃ cause, engine.plainValue (.json root) text = .error (.evaluation (.query cause)) := by
  obtain ⟨cause, refused⟩ :=
    Term.resolve_open_quote engine.config.trimText paths selected unclosed root
  have failed : engine.evaluate (.json root) rule = .error (.query cause) := by
    rw [evaluate, Rule.evaluate, groups, tryChains_cons, Chain.evaluate, mergeTerms_cons, refused]
  exact ⟨cause, by simp [plainValue, read, valueOf, failed]⟩

private theorem plainValue_broken_quoting (paths : engine.backends.path = jsonPathBackend)
    (closed : '\'' ∉ name.toList) (broken : ¬Rule.Unbroken name.toList) (root : Json) :
    ∃ error, engine.plainValue (.json root) (Rule.quoting name) = .error error := by
  cases read : Rule.parse (Rule.quoting name) with
  | error cause => exact ⟨.rule cause, by rw [plainValue, read]⟩
  | ok rule =>
      obtain ⟨term, terms, chains, inner, groups, selected, unclosed⟩ :=
        Rule.selector_of_broken_quoting closed broken read
      obtain ⟨cause, failed⟩ := plainValue_of_open_quote paths read groups selected unclosed root
      exact ⟨_, failed⟩

/-- A member that is a string, a number or a truth value is found under its quoted name, which holds
no single quotation mark, and number signs alone or in pairs, if no combinator in the name is
followed by a mark or the opening of a term.  If one is, the rule fails, whatever signs the name
holds. -/
theorem parseDocument_quoting (config : EngineConfig) (markup : MarkupBackend Tree)
    (history : List (Call Tree)) {members : List (String × Json)} (closed : '\'' ∉ name.toList)
    (present : item ≠ .null) (found : Json.member? name members = some item.toJson) :
    let engine := (build config { markup, path := jsonPathBackend }).after history
    let extraction := (engine.parseDocument (.json (.object members)) (Rule.quoting name)).1
    (Rule.PairedSigns name.toList → Rule.Unbroken name.toList →
        extraction = .data (some (.scalar item))) ∧
      (¬Rule.Unbroken name.toList → ∃ kind, extraction = .failed kind) := by
  intro engine extraction
  have plain : extraction = .ofResult
      ((build config { markup, path := jsonPathBackend }).plainValue (.json (.object members))
        (Rule.quoting name)) :=
    (alike_after config _ history []).parseDocument_fst _ _
  constructor
  · intro paired unbroken
    rw [plain, plainValue_quoting rfl closed paired unbroken present found]
    simp [Extraction.ofResult, Extraction.ofValue, Value.success?, Primitive.isNull_of_ne present]
  · intro broken
    have paths : (build config { markup, path := jsonPathBackend }).backends.path =
        jsonPathBackend := rfl
    obtain ⟨error, failed⟩ := plainValue_broken_quoting paths closed broken (.object members)
    exact ⟨error.kind, by rw [plain, failed, Extraction.ofResult]⟩

/-- A rule is cut in front of what looks like a term, inside a quotation as well. -/
theorem parseDocument_quoting_cut :
    let name := "a && @text:b"
    let item := Primitive.bool true
    let members := [(name, item.toJson)]
    let document : Document Html.Tree := .json (.object members)
    let extraction := ((build {} standardBackends).parseDocument document (Rule.quoting name)).1
    '\'' ∉ name.toList ∧ Json.member? name members = some item.toJson ∧
      Rule.quoting name = "@json:$['a && @text:b']" ∧ extraction = .failed .selectorSyntax ∧
        extraction ≠ .data (some (.scalar item)) := by
  intro name item members document extraction
  have failed : extraction = .failed .selectorSyntax := by decide
  exact ⟨by decide, rfl, by decide, failed, by simp [failed]⟩

/-- Combinators, tags, number signs, brackets and the other mark in one name. -/
theorem parseDocument_quoting_inner_combinator :
    let name := "a && b## [\"x\"].y @text:"
    let broken := "a || &&"
    let members := [(broken, .bool true), (name, .string "here")]
    let engine := (build {} standardBackends).after [.compile "@text:a"]
    (engine.parseDocument (.json (.object members)) (Rule.quoting name)).1 =
        .data (some (.scalar (.string "here"))) ∧
      ∃ kind, (engine.parseDocument (.json (.object members)) (Rule.quoting broken)).1 =
        .failed kind := by
  intro name broken members engine
  have alone : Rule.Cuts.Of name.toList { first := name.toList, more := [] } :=
    Rule.of_cuts (by decide)
  have unbroken : Rule.Unbroken name.toList := Rule.Whole.unbroken alone.2
  have cut : ¬Rule.Unbroken broken.toList := fun unbroken =>
    absurd (unbroken ['a'] .or ['&', '&'] (by decide)).1 (by decide)
  have paired : Rule.PairedSigns name.toList :=
    (Rule.cutLast_escape_eq_none_iff false _).mp (by decide)
  have here : Json.member? name members = some (Primitive.string "here").toJson := rfl
  have there : Json.member? broken members = some (Primitive.bool true).toJson := rfl
  let history : List (Call Html.Tree) := [.compile "@text:a"]
  have reached := parseDocument_quoting {} markupBackend history (by decide) (by decide) here
  have missed := parseDocument_quoting {} markupBackend history (by decide) (by decide) there
  exact ⟨reached.1 paired unbroken, missed.2 cut⟩

/-- Where a run of number signs in the name is odd and not single, no member is found under the
name, in whatever document.  The last two signs of the last such run are read as a separator: what
stands behind them is read as a pattern, and where it is a valid one, the path in front of them
leaves its quotation open. -/
theorem parseDocument_quoting_of_lastOddRun (config : EngineConfig) (markup : MarkupBackend Tree)
    (history : List (Call Tree)) {before after : List Char} {pairs : Nat}
    (closed : '\'' ∉ name.toList) (unbroken : Rule.Unbroken name.toList)
    (run : Rule.LastOddRun name.toList before pairs after) (root : Json) :
    let engine := (build config { markup, path := jsonPathBackend }).after history
    let extraction := (engine.parseDocument (.json root) (Rule.quoting name)).1
    let narrowing := Pattern.ofSource (String.ofList (after ++ ['\'', ']']))
    (∀ pattern, narrowing = .ok pattern → extraction = .failed .selectorSyntax) ∧
      ∀ cause, narrowing = .error cause → extraction = .failed .pattern := by
  intro engine extraction narrowing
  have plain : extraction = .ofResult
      ((build config { markup, path := jsonPathBackend }).plainValue (.json root)
        (Rule.quoting name)) :=
    (alike_after config _ history []).parseDocument_fst _ _
  have read := Rule.parse_quoting_of_unbroken closed unbroken
  rw [Rule.termOf_written_of_lastOddRun closed run, Pattern.ofTerm] at read
  constructor
  · intro pattern compiled
    rw [show Pattern.ofSource _ = _ from compiled] at read
    have absent : '\'' ∉ before ++ List.replicate (2 * pairs) '#' ++ ['\\', '#'] := by
      have outside : '\'' ∉ before := fun member => closed (by simp [run.split, member])
      simp [outside]
    have paths : (build config { markup, path := jsonPathBackend }).backends.path =
        jsonPathBackend := rfl
    obtain ⟨cause, failed⟩ := plainValue_of_open_quote paths read rfl rfl absent root
    rw [plain, failed]
    rfl
  · intro cause compiled
    rw [show Pattern.ofSource _ = _ from compiled] at read
    rw [plain, plainValue, read]
    rfl

-- Of three signs the last two make the separator, and the path is cut short in its quotation.
example :
    let document : Document Html.Tree := .json (.object [("a###b", .bool true)])
    Rule.quoting "a###b" = "@json:$['a\\###b']" ∧
      ((build {} standardBackends).parseDocument document (Rule.quoting "a###b")).1 =
        .failed .selectorSyntax := by
  decide +kernel

end Engine

end Gleaner
