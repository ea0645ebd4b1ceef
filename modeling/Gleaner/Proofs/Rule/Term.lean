import Gleaner.Proofs.Rule.Escape
import Gleaner.Proofs.Rule.Selector
import Gleaner.Rule.Render

/-!
# Terms and their texts

The written form of a term is read back as that term exactly when the separator that it is cut at
is the one it was written with.  A term that is read from a piece of a rule can be written in the
place of that piece.
-/

namespace Gleaner

/-- A body, and behind a separator what narrows it, if something does. -/
def Rule.separated (body : List Char) : Option (List Char) → List Char
  | none => body
  | some raw => body ++ '#' :: '#' :: raw

namespace Term

/-- The written form of a term, character by character. -/
def written (term : Term) : List Char :=
  term.selector.kind.tag.toList ++
    Rule.separated (Rule.escape term.selector.body)
      (term.sanitizer.map (Rule.escape ·.source.toList))

/-- The selector is what its body is read as, and the narrowing pattern is not empty. -/
def Readable (term : Term) : Prop :=
  term.selector.Readable ∧ ∀ sanitizer ∈ term.sanitizer, sanitizer.source.toList ≠ []

/-- The written form holds the separator of the term, and no other, as its last open one. -/
def Legible (term : Term) : Prop :=
  match term.sanitizer with
  | none => Rule.PairedSigns term.selector.body
  | some sanitizer =>
      term.selector.body.getLast? ≠ some '\\' ∧ Rule.PairedSigns sanitizer.source.toList ∧
        Rule.startsLone sanitizer.source.toList = false

/-- The term is a literal that ends in a colon and is not narrowed. -/
def IsLabel (term : Term) : Prop :=
  term.selector.kind = .text ∧ term.sanitizer = none ∧
    (term.selector.body.getLast? = some ':' ∨ term.selector.body.getLast? = some '：')

end Term

namespace Rule

/-! ## The parts of a segment -/

theorem splitTag?_append (kind : SelectorKind) (text : List Char) :
    splitTag? (kind.tag.toList ++ text) = some (kind, text) := by
  cases kind <;> rfl

theorem splitTag?_eq_some_iff (segment text : List Char) (kind : SelectorKind) :
    splitTag? segment = some (kind, text) ↔ segment = kind.tag.toList ++ text := by
  constructor
  · intro found
    obtain ⟨other, -, same⟩ := List.exists_of_findSome?_eq_some found
    simp only [List.isPrefixOf_iff_prefix, Option.ite_none_right_eq_some, Option.some.injEq,
      Prod.mk.injEq] at same
    obtain ⟨⟨rest, rfl⟩, rfl, rfl⟩ := same
    simp
  · rintro rfl
    exact splitTag?_append kind text

/-- No tag starts another one. -/
theorem tag_append_inj {kind other : SelectorKind} {text rest : List Char}
    (same : kind.tag.toList ++ text = other.tag.toList ++ rest) : kind = other ∧ text = rest := by
  have found := (splitTag?_eq_some_iff _ rest other).mpr same
  rw [splitTag?_append] at found
  exact Prod.mk.inj (Option.some.inj found)

theorem splitSanitizer_eq_none_iff (text body : List Char) :
    splitSanitizer text = (body, none) ↔ text = body ∧ cutLast false text = none := by
  unfold splitSanitizer
  cases cutLast false text <;> simp

theorem splitSanitizer_eq_some_iff (text body raw : List Char) :
    splitSanitizer text = (body, some raw) ↔ cutLast false text = some (body, raw) := by
  unfold splitSanitizer
  cases cutLast false text <;> simp [Prod.ext_iff]

theorem separated_splitSanitizer (text : List Char) :
    separated (splitSanitizer text).1 (splitSanitizer text).2 = text := by
  cases found : cutLast false text with
  | none => simp [splitSanitizer, found, separated]
  | some parts => simpa [splitSanitizer, found, separated] using (cutLast_eq_some found).1.symm

theorem termOf_eq_ok_iff (segment : List Char) (term : Term) :
    termOf segment = .ok term ↔ ∃ kind text, segment = kind.tag.toList ++ text ∧
      selectorOf kind segment (unescape (splitSanitizer text).1) = .ok term.selector ∧
        sanitizerOf segment (splitSanitizer text).2 = .ok term.sanitizer := by
  constructor
  · intro read
    unfold termOf at read
    split at read
    · cases read
    · next kind text found =>
        refine ⟨kind, text, (splitTag?_eq_some_iff segment text kind).mp found, ?_⟩
        cases selected : selectorOf kind segment (unescape (splitSanitizer text).1) with
        | error cause => simp [selected, bind, Except.bind] at read
        | ok selector =>
            cases narrowed : sanitizerOf segment (splitSanitizer text).2 with
            | error cause => simp [selected, narrowed, bind, Except.bind] at read
            | ok sanitizer =>
                simp only [selected, narrowed, bind, Except.bind, pure, Except.pure,
                  Except.ok.injEq] at read
                exact ⟨by rw [← read], by rw [← read]⟩
  · rintro ⟨kind, text, rfl, selected, narrowed⟩
    simp [termOf, splitTag?_append, selected, narrowed, bind, Except.bind, pure, Except.pure]

/-! ## Reading a written term -/

theorem toList_render_selector {selector : Selector} (readable : selector.Readable) :
    selector.render.toList = selector.kind.tag.toList ++ escape selector.body := by
  cases selector with
  | css selector reading =>
      obtain ⟨-, -, -, valid, -⟩ := readable
      have free : '#' ∉ reading.name.toList :=
        notMem_of_isAttributeName valid (by decide) (by decide)
      rw [Selector.body, escape_append_cons _ _ (by decide), escape_other _ (by decide),
        escape_eq_self free]
      simp [Selector.render, escaped]
  | json path => simp [Selector.render, Selector.body, escaped]
  | regex pattern => simp [Selector.render, Selector.body, Pattern.render, escaped]
  | text literal => simp [Selector.render, Selector.body, escaped]

theorem toList_render {term : Term} (readable : term.Readable) :
    term.render.toList = term.written := by
  have selected := toList_render_selector readable.1
  cases same : term.sanitizer with
  | none => simp [Term.render, Term.written, same, selected, separated]
  | some sanitizer =>
      simp [Term.render, Term.written, same, selected, separated, Pattern.render, escaped]

theorem sanitizerOf_escape {raw : List Char} (nonempty : raw ≠ []) (segment : List Char) :
    sanitizerOf segment (some (escape raw)) = (Pattern.ofTerm (String.ofList raw)).map some := by
  have unescapes : unescaped (escape raw) = String.ofList raw := by
    rw [unescaped, unescape_escape]
  cases escapes : escape raw with
  | nil =>
      have empty := unescape_escape raw
      rw [escapes] at empty
      exact absurd empty.symm nonempty
  | cons c rest =>
      rw [escapes] at unescapes
      rw [sanitizerOf, unescapes]
      exact nofun

theorem sanitizerOf_source {sanitizer : Pattern} (nonempty : sanitizer.source.toList ≠ [])
    (segment : List Char) :
    sanitizerOf segment (some (escape sanitizer.source.toList)) = .ok (some sanitizer) := by
  rw [sanitizerOf_escape nonempty, String.ofList_toList, Pattern.ofTerm, Pattern.ofSource_source]
  rfl

theorem sanitizerOf_eq_ok {segment : List Char} {raw : Option (List Char)}
    {sanitizer : Option Pattern} (read : sanitizerOf segment raw = .ok sanitizer) :
    raw.map unescape = sanitizer.map (·.source.toList) ∧ raw ≠ some [] := by
  unfold sanitizerOf at read
  split at read
  · cases read
    exact ⟨rfl, by simp⟩
  · cases read
  · next raw nonempty =>
      cases built : Pattern.ofTerm (unescaped raw) with
      | error cause => simp [built, Except.map] at read
      | ok pattern =>
          simp only [built, Except.map, Except.ok.injEq] at read
          subst read
          simp [source_of_ofTerm built, unescaped]
          exact nonempty

theorem readable_of_termOf {segment : List Char} {term : Term}
    (read : termOf segment = .ok term) : term.Readable := by
  obtain ⟨kind, text, -, selected, narrowed⟩ := (termOf_eq_ok_iff segment term).mp read
  refine ⟨(readFrom_of_selectorOf selected).2.readable, fun sanitizer some_eq => ?_⟩
  rw [Option.mem_def] at some_eq
  obtain ⟨same, nonempty⟩ := sanitizerOf_eq_ok narrowed
  cases raw : (splitSanitizer text).2 with
  | none => simp [raw, some_eq] at same
  | some raw_text =>
      simp only [raw, some_eq, Option.map_some, Option.some.injEq] at same
      rw [← same]
      cases raw_text with
      | nil => exact absurd raw nonempty
      | cons c rest =>
          intro empty
          have shorter := congrArg List.getLast? empty
          simp [getLast?_unescape, List.getLast?_cons] at shorter

private theorem splitSanitizer_written (term : Term) :
    splitSanitizer (separated (escape term.selector.body)
        (term.sanitizer.map (escape ·.source.toList))) =
      (escape term.selector.body, term.sanitizer.map (escape ·.source.toList)) ↔
        term.Legible := by
  cases same : term.sanitizer with
  | none =>
      simp [Term.Legible, same, separated, splitSanitizer_eq_none_iff,
        cutLast_escape_eq_none_iff]
  | some sanitizer =>
      simp [Term.Legible, same, separated, splitSanitizer_eq_some_iff, cutLast_eq_some_iff,
        cutLast_escape_eq_none_iff, endsEscaped_false_iff, getLast?_escape, head?_escape]

private theorem length_le_of_separated {text before after left right : List Char}
    (here : text = before ++ '#' :: '#' :: after) (there : text = left ++ '#' :: '#' :: right)
    (same : unescape after = unescape right) : after.length ≤ right.length := by
  by_contra longer
  have inner : after <:+ text := ⟨before ++ ['#', '#'], by simp [here]⟩
  have sign : '#' :: right <:+ text := ⟨left ++ ['#'], by simp [there]⟩
  -- The shorter text and the sign before it lie inside the longer one.
  obtain ⟨front, rfl⟩ := List.suffix_of_suffix_length_le sign inner (by simp; omega)
  exact absurd (length_unescape_lt front right) (by rw [same]; exact Nat.lt_irrefl _)

private theorem separated_inj {before left : List Char} {after right : Option (List Char)}
    (joined : separated before after = separated left right)
    (same : after.map unescape = right.map unescape) : before = left ∧ after = right := by
  cases after with
  | none =>
      obtain rfl : right = none := by simpa using same.symm
      exact ⟨joined, rfl⟩
  | some after =>
      obtain ⟨right, rfl, unescapes⟩ := Option.map_eq_some_iff.mp same.symm
      have lengths := Nat.le_antisymm (length_le_of_separated rfl joined unescapes.symm)
        (length_le_of_separated rfl joined.symm unescapes)
      obtain ⟨front, back⟩ := List.append_inj' joined (by simp [lengths])
      exact ⟨front, by simpa using back⟩

theorem termOf_of_legible {term : Term} (readable : term.Readable) (legible : term.Legible) :
    termOf term.written = .ok term := by
  have split := (splitSanitizer_written term).mpr legible
  refine (termOf_eq_ok_iff _ _).mpr ⟨term.selector.kind, _, rfl, ?_, ?_⟩
  · rw [split, unescape_escape]
    exact selectorOf_body readable.1 _
  · rw [split]
    cases same : term.sanitizer with
    | none => rfl
    | some sanitizer => exact sanitizerOf_source (readable.2 sanitizer same) _

theorem legible_of_termOf {term : Term} (read : termOf term.written = .ok term) :
    term.Legible := by
  obtain ⟨kind, text, tagged, -, narrowed⟩ := (termOf_eq_ok_iff _ term).mp read
  obtain ⟨rfl, rfl⟩ := tag_append_inj tagged
  have unescapes : (term.sanitizer.map (escape ·.source.toList)).map unescape =
      term.sanitizer.map (·.source.toList) := by
    simp [Function.comp_def, unescape_escape]
  have same := (sanitizerOf_eq_ok narrowed).1.trans unescapes.symm
  obtain ⟨front, back⟩ := separated_inj (separated_splitSanitizer _) same
  exact (splitSanitizer_written term).mp (Prod.ext front back)

/-- A readable term is read from its written form exactly when it is legible. -/
theorem termOf_written_iff {term : Term} (readable : term.Readable) :
    termOf term.written = .ok term ↔ term.Legible :=
  ⟨legible_of_termOf, termOf_of_legible readable⟩

/-! ## Labels -/

theorem isLabel_eq_true_iff (segment : List Char) :
    isLabel segment = true ↔ ∃ literal, segment = SelectorKind.text.tag.toList ++ literal ∧
      cutLast false literal = none ∧
        (literal.getLast? = some ':' ∨ literal.getLast? = some '：') := by
  simp only [isLabel, Bool.and_eq_true, List.isPrefixOf_iff_prefix]
  constructor
  · rintro ⟨⟨literal, rfl⟩, ends⟩
    refine ⟨literal, rfl, ?_⟩
    rw [List.drop_left] at ends
    cases cut : cutLast false literal with
    | none => simpa [splitSanitizer, cut] using ends
    | some parts => simp [splitSanitizer, cut] at ends
  · rintro ⟨literal, rfl, cut, ends⟩
    refine ⟨List.prefix_append _ _, ?_⟩
    rw [List.drop_left]
    simpa [splitSanitizer, cut] using ends

theorem isLabel_tag_append (kind : SelectorKind) (text : List Char) :
    isLabel (kind.tag.toList ++ text) = true ↔ kind = .text ∧ cutLast false text = none ∧
      (text.getLast? = some ':' ∨ text.getLast? = some '：') := by
  rw [isLabel_eq_true_iff]
  constructor
  · rintro ⟨literal, same, ends⟩
    obtain ⟨rfl, rfl⟩ := tag_append_inj same
    exact ⟨rfl, ends⟩
  · rintro ⟨rfl, ends⟩
    exact ⟨text, rfl, ends⟩

theorem isLabel_iff_of_termOf {segment : List Char} {term : Term}
    (read : termOf segment = .ok term) : isLabel segment = true ↔ term.IsLabel := by
  obtain ⟨kind, text, rfl, selected, narrowed⟩ := (termOf_eq_ok_iff segment term).mp read
  obtain ⟨rfl, source⟩ := readFrom_of_selectorOf selected
  have same := (sanitizerOf_eq_ok narrowed).1
  rw [isLabel_tag_append, Term.IsLabel]
  cases cut : cutLast false text with
  | some parts =>
      have narrows : term.sanitizer ≠ none := by
        rintro none_eq
        simp [splitSanitizer, cut, none_eq] at same
      simp [narrows]
  | none =>
      have bare : term.sanitizer = none := by
        simpa [splitSanitizer, cut] using same.symm
      simp only [bare, true_and]
      refine and_congr_right fun literal => ?_
      have body : term.selector.body = unescape text := by
        generalize term.selector = selector at source literal ⊢
        cases source <;> simp_all [Selector.kind, Selector.body, splitSanitizer]
      rw [body, getLast?_unescape]

theorem cutLast_append_space (text : List Char) (escaped : Bool) :
    cutLast escaped (text ++ [' ']) = none ↔ cutLast escaped text = none := by
  induction text generalizing escaped with
  | nil => simp [cutLast]
  | cons c rest ih =>
      rw [List.cons_append, cutLast_cons_eq_none_iff, cutLast_cons_eq_none_iff, ih]
      cases rest <;> simp

private theorem spaced_of_beforeCombinator {segment : List Char} {term : Term}
    (label : isLabel segment = true) (read : termOf (beforeCombinator .and segment) = .ok term) :
    term.sanitizer = none ∧ term.selector.body.getLast? = some ' ' := by
  obtain ⟨literal, rfl, cut, -⟩ := (isLabel_eq_true_iff segment).mp label
  simp only [beforeCombinator, label, beq_self_eq_true, Bool.and_self, if_true] at read
  rw [List.append_assoc] at read
  obtain ⟨kind, text, tagged, selected, narrowed⟩ := (termOf_eq_ok_iff _ term).mp read
  obtain ⟨rfl, rfl⟩ := tag_append_inj tagged
  have whole := (cutLast_append_space literal false).mpr cut
  simp only [splitSanitizer, whole, selectorOf, Except.ok.injEq] at selected
  constructor
  · simpa [splitSanitizer, whole] using (sanitizerOf_eq_ok narrowed).1.symm
  · rw [← selected, Selector.body, String.toList_ofList, getLast?_unescape]
    simp

/-- No term that another one follows in its chain is read as a label. -/
theorem not_isLabel_of_beforeCombinator {segment : List Char} {term : Term}
    (read : termOf (beforeCombinator .and segment) = .ok term) : ¬term.IsLabel := by
  by_cases label : isLabel segment = true
  · rintro ⟨-, -, ends | ends⟩ <;>
      simp [(spaced_of_beforeCombinator label read).2] at ends
  · have plain : beforeCombinator .and segment = segment := by simp [beforeCombinator, label]
    rw [plain] at read
    rwa [← isLabel_iff_of_termOf read]

/-- In front of another term of its chain, a readable term is read from its written form exactly
when it is legible and no label. -/
theorem termOf_beforeCombinator_written_iff {term : Term} (readable : term.Readable) :
    termOf (beforeCombinator .and term.written) = .ok term ↔ term.Legible ∧ ¬term.IsLabel := by
  constructor
  · intro read
    have other := not_isLabel_of_beforeCombinator read
    refine ⟨?_, other⟩
    by_cases label : isLabel term.written = true
    · obtain ⟨bare, space⟩ := spaced_of_beforeCombinator label read
      rw [Term.written, bare, isLabel_tag_append, Option.map_none, separated,
        getLast?_escape] at label
      simp [space] at label
    · have plain : beforeCombinator .and term.written = term.written := by
        simp [beforeCombinator, label]
      exact legible_of_termOf (plain ▸ read)
  · rintro ⟨legible, other⟩
    have read := termOf_of_legible readable legible
    have plain : beforeCombinator .and term.written = term.written := by
      simp [beforeCombinator, mt (isLabel_iff_of_termOf read).mp other]
    rw [plain, read]

/-! ## Terms as pieces -/

theorem opensTerm_tag_append (kind : SelectorKind) (text : List Char) :
    opensTerm (kind.tag.toList ++ text) = true := by
  cases kind <;> rfl

theorem opensTerm_written (term : Term) : opensTerm term.written = true :=
  opensTerm_tag_append _ _

private theorem unbroken_append_sign_iff (left right : List Char) :
    Unbroken (left ++ '#' :: right) ↔ Unbroken left ∧ Unbroken right :=
  unbroken_append_cons_iff inert_sign (by decide) (by decide)

private theorem unbroken_sign_iff (rest : List Char) : Unbroken ('#' :: rest) ↔ Unbroken rest := by
  simpa [unbroken_nil] using unbroken_append_sign_iff [] rest

/-- Escaping makes no combinator and breaks none. -/
private theorem unbroken_append_escape_iff (front text : List Char) :
    Unbroken (front ++ escape text) ↔ Unbroken (front ++ text) := by
  -- Signs and backslashes part the text, so only other characters join what stands in front.
  induction text using signInduction generalizing front with
  | nil => rfl
  | pair rest ih =>
      have back := ih []
      simp only [List.nil_append] at back
      rw [escape, unbroken_append_cons_iff inert_backslash (by decide) (by decide),
        unbroken_append_sign_iff, unbroken_sign_iff, unbroken_sign_iff, unbroken_sign_iff, back]
  | lone rest stops ih =>
      have back := ih []
      simp only [List.nil_append] at back
      rw [escape_lone stops, unbroken_append_sign_iff, unbroken_append_sign_iff, back]
  | other c rest other ih =>
      rw [escape_other rest other]
      simpa using ih (front ++ [c])

private theorem unbroken_append_unescape_iff (front text : List Char) :
    Unbroken (front ++ unescape text) ↔ Unbroken (front ++ text) := by
  fun_induction unescape text generalizing front with
  | case1 rest ih =>
      have back := ih []
      simp only [List.nil_append] at back
      rw [unbroken_append_cons_iff inert_backslash (by decide) (by decide),
        unbroken_append_sign_iff, unbroken_sign_iff, unbroken_sign_iff, unbroken_sign_iff, back]
  | case2 c rest plain ih => simpa using ih (front ++ [c])
  | case3 => rfl

theorem whole_escape_iff (followed : Bool) (text : List Char) :
    Whole followed (escape text) ↔ Whole followed text := by
  have unbroken := unbroken_append_escape_iff [] text
  have free := fun combinator : Combinator =>
    notMem_remnant inert_sign (by decide) combinator followed
  constructor
  · rintro ⟨inner, closed⟩
    exact ⟨unbroken.mp inner, fun combinator ends =>
      closed combinator (suffix_escape_of_suffix (free combinator) ends)⟩
  · rintro ⟨inner, closed⟩
    exact ⟨unbroken.mpr inner, fun combinator ends =>
      closed combinator (suffix_of_suffix_escape (free combinator) ends)⟩

theorem Whole.unescape {followed : Bool} {text : List Char} (whole : Whole followed text) :
    Whole followed (unescape text) where
  unbroken := (unbroken_append_unescape_iff [] text).mpr whole.unbroken
  closed combinator ends := whole.closed combinator
    (suffix_of_suffix_unescape (notMem_remnant inert_sign (by decide) combinator followed) ends)

private theorem whole_append_sign_iff (followed : Bool) (left right : List Char) :
    Whole followed (left ++ '#' :: right) ↔ Unbroken left ∧ Whole followed right := by
  constructor
  · rintro whole
    have parts := (unbroken_append_sign_iff left right).mp whole.unbroken
    exact ⟨parts.1, whole.of_suffix ⟨left ++ ['#'], by simp⟩⟩
  · rintro ⟨unbroken, inner, closed⟩
    refine ⟨(unbroken_append_sign_iff left right).mpr ⟨unbroken, inner⟩, fun combinator ends => ?_⟩
    have absent := notMem_remnant inert_sign (by decide) combinator followed
    exact closed combinator (suffix_of_suffix_append_cons absent ends)

theorem whole_tag_append_iff (followed : Bool) (kind : SelectorKind) (text : List Char) :
    Whole followed (kind.tag.toList ++ text) ↔ Whole followed text := by
  constructor
  · exact fun whole => whole.of_suffix (List.suffix_append _ _)
  · rintro ⟨inner, closed⟩
    have spaceless : ' ' ∉ kind.tag.toList := by cases kind <;> decide
    refine ⟨(unbroken_append_iff spaceless).mpr inner, fun combinator ends => ?_⟩
    have absent : ':' ∉ combinator.remnant followed := by
      cases followed <;> cases combinator <;> decide
    have colon : kind.tag.toList = '@' :: kind.name.toList ++ [':'] := by simp [SelectorKind.tag]
    rw [colon, List.append_assoc] at ends
    exact closed combinator (suffix_of_suffix_append_cons absent ends)

theorem whole_separated_iff (followed : Bool) (body : List Char) (raw : Option (List Char)) :
    Whole followed (separated body raw) ↔
      match raw with
      | none => Whole followed body
      | some raw => Unbroken body ∧ Whole followed raw := by
  cases raw with
  | none => rfl
  | some raw =>
      have sign := whole_append_sign_iff followed [] raw
      simp only [List.nil_append, unbroken_nil, true_and] at sign
      rw [separated, whole_append_sign_iff, sign]

/-- A written term can be a piece when its selector and its pattern can. -/
theorem whole_written_iff (followed : Bool) (term : Term) :
    Whole followed term.written ↔
      match term.sanitizer with
      | none => Whole followed term.selector.body
      | some sanitizer =>
          Unbroken term.selector.body ∧ Whole followed sanitizer.source.toList := by
  have body := unbroken_append_escape_iff [] term.selector.body
  rw [List.nil_append, List.nil_append] at body
  rw [Term.written, whole_tag_append_iff, whole_separated_iff]
  cases term.sanitizer with
  | none => exact whole_escape_iff followed _
  | some sanitizer => exact and_congr body (whole_escape_iff followed _)

/-- The written form of a term can stand where the segment stands that the term is read from. -/
theorem whole_written_of_termOf {followed : Bool} {segment : List Char} {term : Term}
    (whole : Whole followed segment) (read : termOf segment = .ok term) :
    Whole followed term.written := by
  obtain ⟨kind, text, rfl, selected, narrowed⟩ := (termOf_eq_ok_iff segment term).mp read
  have source := (readFrom_of_selectorOf selected).2
  have same := (sanitizerOf_eq_ok narrowed).1
  have behind := (whole_tag_append_iff followed kind text).mp whole
  rw [← separated_splitSanitizer text, whole_separated_iff] at behind
  rw [whole_written_iff]
  cases raw : (splitSanitizer text).2 with
  | none =>
      have bare : term.sanitizer = none := by simpa [raw] using same.symm
      rw [raw] at behind
      rw [bare]
      exact source.whole behind.unescape
  | some after =>
      rw [raw] at behind same
      obtain ⟨front, back⟩ := behind
      obtain ⟨sanitizer, narrows, source_eq⟩ := Option.map_eq_some_iff.mp same.symm
      rw [narrows]
      refine ⟨source.unbroken ((unbroken_append_unescape_iff [] _).mpr front), ?_⟩
      rw [source_eq]
      exact back.unescape

/-- The space that a label keeps makes no combinator. -/
theorem Whole.concat_space {segment : List Char} (whole : Whole true segment) :
    Whole true (segment ++ [' ']) where
  unbroken before combinator after split := by
    cases after using List.reverseRecOn with
    | nil => exact ⟨rfl, rfl⟩
    | append_singleton after last =>
        rw [← List.append_assoc] at split
        obtain ⟨inner, space⟩ := List.append_inj' split rfl
        obtain rfl : ' ' = last := by simpa using space
        obtain ⟨noMark, noTerm⟩ := whole.unbroken before combinator after inner
        constructor
        · by_contra starts
          rw [Bool.not_eq_false] at starts
          simp [startsWithMark_of_append_cons inert_space starts] at noMark
        · by_contra opens
          rw [Bool.not_eq_false] at opens
          simp [opensTerm_of_append_cons inert_space (by simp) opens] at noTerm
  closed combinator := by
    rintro ⟨front, same⟩
    have last := congrArg List.getLast? same
    cases combinator <;> simp [Combinator.remnant, Combinator.mark] at last

theorem Whole.beforeCombinator {segment : List Char} (whole : Whole true segment)
    (combinator : Combinator) : Whole true (beforeCombinator combinator segment) := by
  unfold Rule.beforeCombinator
  split
  · exact whole.concat_space
  · exact whole

end Rule

end Gleaner
