import Gleaner.Proofs.Rule.Cuts
import Gleaner.Proofs.Text.Blank
import Gleaner.Rule.Parser
import Mathlib.Data.List.Infix

/-!
# Selectors and their bodies

The body of a selector is what stands behind its tag once separators are unescaped.  A readable
selector is read from its body, and every selector that is read is readable.
-/

namespace Gleaner

namespace Selector

/-- The text behind the tag, with no separator escaped. -/
def body : Selector → List Char
  | css selector reading => selector.toList ++ '@' :: reading.name.toList
  | json path => path.toList
  | regex pattern => pattern.source.toList
  | text literal => literal.toList

/-- The selector is what its body is read as. -/
def Readable : Selector → Prop
  | css selector reading =>
      selector.toList ≠ [] ∧ Text.Trimmed selector.toList ∧
        Rule.spacedOutside none selector.toList = false ∧
        Rule.isAttributeName reading.name.toList = true ∧ Attribute.ofName reading.name = reading
  | json path =>
      path.toList ≠ [] ∧ Text.Trimmed path.toList ∧ Rule.hasBareCombinator path.toList = false
  | regex pattern => pattern.source.toList ≠ []
  | text _ => True

end Selector

namespace Rule

/-! ## Combinators outside quotes -/

theorem startsSpaced_eq_true_iff (text : List Char) :
    startsSpaced text = true ↔ ∃ combinator : Combinator, combinator.token <+: text := by
  rw [startsSpaced, Bool.or_eq_true, List.isPrefixOf_iff_prefix, List.isPrefixOf_iff_prefix]
  constructor
  · rintro (first | first)
    · exact ⟨.and, first⟩
    · exact ⟨.or, first⟩
  · rintro ⟨_ | _, first⟩
    · exact .inl first
    · exact .inr first

theorem startsSpaced_cons_eq_false {c : Char} (other : c ≠ ' ') (rest : List Char) :
    startsSpaced (c :: rest) = false := by
  by_contra starts
  obtain ⟨combinator, after, split⟩ :=
    (startsSpaced_eq_true_iff _).mp (Bool.not_eq_false _ ▸ starts)
  exact other (List.cons.inj split).1.symm

private theorem startsSpaced_append {text : List Char} (starts : startsSpaced text = true)
    (rest : List Char) : startsSpaced (text ++ rest) = true := by
  obtain ⟨combinator, first⟩ := (startsSpaced_eq_true_iff text).mp starts
  exact (startsSpaced_eq_true_iff _).mpr ⟨combinator, first.trans (List.prefix_append text rest)⟩

private theorem startsSpaced_of_append_cons {text rest : List Char} {c : Char}
    (absent : ∀ combinator : Combinator, c ∉ combinator.token)
    (starts : startsSpaced (text ++ c :: rest) = true) : startsSpaced text = true := by
  obtain ⟨combinator, after, split⟩ := (startsSpaced_eq_true_iff _).mp starts
  obtain ⟨middle, rfl, -⟩ := eq_append_of_append_cons (absent combinator) split.symm
  exact (startsSpaced_eq_true_iff _).mpr ⟨combinator, List.prefix_append _ _⟩

/-- The quotation mark that is open after the text. -/
def openQuote (quote : Option Char) : List Char → Option Char
  | [] => quote
  | c :: rest =>
      match quote with
      | some mark => openQuote (if c == mark then none else some mark) rest
      | none => openQuote (if c == '\'' || c == '"' then some c else none) rest

private theorem exists_append_cons_iff {c : Char} {rest : List Char}
    {property : List Char → List Char → Prop} :
    (∃ before after, c :: rest = before ++ after ∧ property before after) ↔
      property [] (c :: rest) ∨
        ∃ before after, rest = before ++ after ∧ property (c :: before) after := by
  constructor
  · rintro ⟨_ | ⟨head, before⟩, after, split, holds⟩
    · rw [List.nil_append] at split
      exact .inl (split ▸ holds)
    · obtain ⟨rfl, rfl⟩ := List.cons.inj split
      exact .inr ⟨before, after, rfl, holds⟩
  · rintro (holds | ⟨before, after, rfl, holds⟩)
    · exact ⟨[], c :: rest, rfl, holds⟩
    · exact ⟨c :: before, after, rfl, holds⟩

/-- A combinator stands outside quotes where the text before it leaves no quotation mark open. -/
theorem spacedOutside_eq_true_iff (quote : Option Char) (text : List Char) :
    spacedOutside quote text = true ↔
      ∃ before after, text = before ++ after ∧ openQuote quote before = none ∧
        startsSpaced after = true := by
  induction text generalizing quote with
  | nil =>
      rw [spacedOutside]
      constructor
      · simp
      · rintro ⟨before, after, split, -, starts⟩
        obtain ⟨-, rfl⟩ := List.append_eq_nil_iff.mp split.symm
        exact absurd starts (by decide)
  | cons c rest ih =>
      rw [exists_append_cons_iff]
      cases quote with
      | some mark => simp [spacedOutside, openQuote, ih]
      | none =>
          rw [spacedOutside]
          by_cases opens : (c == '\'' || c == '"') = true
          · have quoted : startsSpaced (c :: rest) = false := by
              rcases Bool.or_eq_true_iff.mp opens with same | same <;>
                rw [beq_iff_eq.mp same] <;> rfl
            simp [openQuote, ih, opens, quoted]
          · simp [openQuote, ih, opens]

theorem spacedOutside_of_append {quote : Option Char} {text : List Char}
    (spaced : spacedOutside quote text = true) (rest : List Char) :
    spacedOutside quote (text ++ rest) = true := by
  obtain ⟨before, after, rfl, closed, starts⟩ := (spacedOutside_eq_true_iff quote text).mp spaced
  exact (spacedOutside_eq_true_iff quote _).mpr
    ⟨before, after ++ rest, by simp, closed, startsSpaced_append starts rest⟩

theorem spacedOutside_quotation {mark : Char} {inside : List Char} (absent : mark ∉ inside)
    (rest : List Char) :
    spacedOutside (some mark) (inside ++ mark :: rest) = spacedOutside none rest := by
  induction inside with
  | nil => simp [spacedOutside]
  | cons c inside ih =>
      obtain ⟨other, later⟩ := List.ne_and_not_mem_of_not_mem_cons absent
      simp [spacedOutside, other.symm, ih later]

theorem openQuote_blanks_append {blanks : List Char} (blank : ∀ c ∈ blanks, Text.isBlank c = true)
    (text : List Char) : openQuote none (blanks ++ text) = openQuote none text := by
  induction blanks with
  | nil => rfl
  | cons c rest ih =>
      have plain : (c == '\'' || c == '"') = false := by
        by_contra quoted
        rw [Bool.not_eq_false] at quoted
        rcases Bool.or_eq_true_iff.mp quoted with same | same <;>
          exact absurd (blank c (by simp)) (by rw [beq_iff_eq.mp same]; decide)
      rw [List.cons_append, openQuote]
      simp only [plain, Bool.false_eq_true, if_false]
      exact ih (fun d member => blank d (List.mem_cons_of_mem c member))

private theorem spacedOutside_of_trim {text : List Char}
    (spaced : spacedOutside none (Text.trim text) = true) : spacedOutside none text = true := by
  obtain ⟨blanks, split, blank⟩ := Text.exists_blanks_append_trimStart text
  obtain ⟨rest, trimmed⟩ := Text.trimEnd_prefix_self (Text.trimStart text)
  have longer := spacedOutside_of_append spaced rest
  rw [Text.trim, trimmed] at longer
  obtain ⟨before, after, inner, closed, starts⟩ := (spacedOutside_eq_true_iff none _).mp longer
  refine (spacedOutside_eq_true_iff none text).mpr ⟨blanks ++ before, after, ?_, ?_, starts⟩
  · rw [split, inner, List.append_assoc]
  · rw [openQuote_blanks_append blank, closed]

/-- A combinator is bare at the end of the trimmed body, or outside quotes. -/
theorem hasBareCombinator_eq_false_iff (body : List Char) :
    hasBareCombinator body = false ↔
      (∀ combinator : Combinator, ¬(' ' :: combinator.mark) <:+ Text.trimEnd body) ∧
        spacedOutside none body = false := by
  rw [hasBareCombinator, Bool.or_eq_false_iff, Bool.or_eq_false_iff, ← Bool.not_eq_true,
    ← Bool.not_eq_true, Text.endsWith_iff, Text.endsWith_iff]
  constructor
  · rintro ⟨⟨notAnd, notOr⟩, closed⟩
    exact ⟨fun combinator => by cases combinator <;> assumption, closed⟩
  · rintro ⟨open_end, closed⟩
    exact ⟨⟨open_end .and, open_end .or⟩, closed⟩

theorem hasBareCombinator_trim {body : List Char} (plain : hasBareCombinator body = false) :
    hasBareCombinator (Text.trim body) = false := by
  obtain ⟨open_end, closed⟩ := (hasBareCombinator_eq_false_iff body).mp plain
  refine (hasBareCombinator_eq_false_iff _).mpr ⟨fun combinator ends => ?_, ?_⟩
  · rw [(Text.trimmed_trim body).trimEnd_eq] at ends
    obtain ⟨blanks, split, -⟩ := Text.exists_blanks_append_trimStart body
    refine open_end combinator (ends.trans ?_)
    conv_rhs => rw [split]
    exact Text.trimEnd_append_suffix blanks (Text.trimStart body)
  · by_contra spaced
    simp [spacedOutside_of_trim (by simpa using spaced)] at closed

/-! ## Attributes -/

theorem splitLastAt_eq_none {body : List Char} (absent : '@' ∉ body) : splitLastAt body = none := by
  induction body with
  | nil => rfl
  | cons c rest ih =>
      simp only [List.mem_cons, not_or] at absent
      simp [splitLastAt, ih absent.2, Ne.symm absent.1]

theorem splitLastAt_append (front : List Char) {back : List Char} (last : '@' ∉ back) :
    splitLastAt (front ++ '@' :: back) = some (front, back) := by
  induction front with
  | nil => simp [splitLastAt, splitLastAt_eq_none last]
  | cons c rest ih => simp [splitLastAt, ih]

private theorem splitLastAt_eq_some {body front back : List Char}
    (found : splitLastAt body = some (front, back)) : body = front ++ '@' :: back := by
  induction body generalizing front with
  | nil => simp [splitLastAt] at found
  | cons c rest ih =>
      rw [splitLastAt] at found
      cases later : splitLastAt rest with
      | some pieces =>
          simp only [later, Option.some.injEq, Prod.mk.injEq] at found
          obtain ⟨rfl, rfl⟩ := found
          rw [ih later]
          rfl
      | none =>
          simp only [later, beq_iff_eq, Option.ite_none_right_eq_some, Option.some.injEq,
            Prod.mk.injEq] at found
          obtain ⟨rfl, rfl, rfl⟩ := found
          rfl

theorem notMem_of_isAttributeName {name : List Char} {c : Char}
    (valid : isAttributeName name = true) (letter : c.isAlphanum = false)
    (other : c ≠ '_' ∧ c ≠ '-' ∧ c ≠ ':') : c ∉ name := by
  cases name with
  | nil => simp
  | cons head rest =>
      simp only [isAttributeName, Bool.and_eq_true, Bool.or_eq_true, beq_iff_eq,
        List.all_eq_true] at valid
      obtain ⟨first, more⟩ := valid
      intro member
      rcases List.mem_cons.mp member with rfl | later
      · simp only [Char.isAlphanum, Bool.or_eq_false_iff] at letter
        simp [letter.1, other.1] at first
      · simpa [letter, other] using more c later

private theorem not_blank_of_isAttributeName {name : List Char}
    (valid : isAttributeName name = true) {c : Char} (member : c ∈ name) :
    Text.isBlank c = false := by
  by_contra blank
  rw [Bool.not_eq_false] at blank
  have bounds := Text.toNat_of_isBlank blank
  have ranges : c.isAlphanum = (decide (65 ≤ c.val ∧ c.val ≤ 90) ||
      (decide (97 ≤ c.val) && decide (c.val ≤ 122)) ||
        (decide (48 ≤ c.val) && decide (c.val ≤ 57))) := rfl
  have letter : c.isAlphanum = false := by
    simp only [ranges, Bool.or_eq_false_iff, Bool.and_eq_false_iff, decide_eq_false_iff_not,
      UInt32.le_iff_toNat_le]
    refine ⟨⟨?_, ?_⟩, ?_⟩ <;> simp <;> omega
  refine notMem_of_isAttributeName valid letter ⟨?_, ?_, ?_⟩ member
  all_goals
    rintro rfl
    exact absurd bounds (by decide)

private theorem splitAttribute_append (selector : List Char) {reading : Attribute}
    (valid : isAttributeName reading.name.toList = true)
    (same : Attribute.ofName reading.name = reading) :
    splitAttribute (selector ++ '@' :: reading.name.toList) = (selector, reading) := by
  have last : '@' ∉ reading.name.toList :=
    notMem_of_isAttributeName valid (by decide) (by decide)
  simp [splitAttribute, splitLastAt_append selector last, valid, same]

/-- The selector list is the start of the body, and the attribute is named validly. -/
theorem splitAttribute_spec (body : List Char) :
    (splitAttribute body).1 <+: body ∧
      isAttributeName (splitAttribute body).2.name.toList = true ∧
        Attribute.ofName (splitAttribute body).2.name = (splitAttribute body).2 := by
  have default_valid : isAttributeName Attribute.text.name.toList = true := by decide
  unfold splitAttribute
  split
  · next selector name found =>
      split
      · next valid =>
          refine ⟨?_, ?_, ?_⟩
          · exact splitLastAt_eq_some found ▸ List.prefix_append _ _
          · simpa [Attribute.name_ofName] using valid
          · rw [Attribute.name_ofName]
      · exact ⟨List.prefix_rfl, default_valid, rfl⟩
  · exact ⟨List.prefix_rfl, default_valid, rfl⟩

private theorem hasBareCombinator_append {selector name : List Char}
    (closed : spacedOutside none selector = false) (valid : isAttributeName name = true) :
    hasBareCombinator (selector ++ '@' :: name) = false := by
  have bare : ∀ c, (selector ++ '@' :: name).getLast? = some c → Text.isBlank c = false := by
    intro c ends
    rcases List.mem_cons.mp (List.mem_of_getLast? (l := '@' :: name) (by simpa using ends)) with
      rfl | member
    · decide
    · exact not_blank_of_isAttributeName valid member
  have spaceless : ' ' ∉ '@' :: name := by
    simpa using notMem_of_isAttributeName valid (c := ' ') (by decide) (by decide)
  refine (hasBareCombinator_eq_false_iff _).mpr ⟨fun combinator ends => ?_, ?_⟩
  · rw [Text.trimEnd_eq_self bare] at ends
    have absent : '@' ∉ ' ' :: combinator.mark := by cases combinator <;> decide
    have behind := suffix_of_suffix_append_cons absent ends
    exact spaceless (List.mem_cons_of_mem _ (behind.subset List.mem_cons_self))
  · by_contra spaced
    rw [Bool.not_eq_false, spacedOutside_eq_true_iff] at spaced
    obtain ⟨before, after, split, quotes, starts⟩ := spaced
    obtain ⟨middle, rfl, rest_eq⟩ | ⟨middle, rfl, rfl⟩ := List.append_eq_append_iff.mp split
    · obtain ⟨combinator, first⟩ := (startsSpaced_eq_true_iff after).mp starts
      have space : ' ' ∈ after := first.subset (by simp [Combinator.token])
      exact spaceless (rest_eq ▸ List.mem_append_right middle space)
    · have absent : ∀ combinator : Combinator, '@' ∉ combinator.token := by
        rintro (_ | _) <;> decide
      have inner := startsSpaced_of_append_cons absent starts
      simp [(spacedOutside_eq_true_iff none _).mpr ⟨before, middle, rfl, quotes, inner⟩] at closed

/-! ## Reading a body -/

theorem selectorOf_body {selector : Selector} (readable : selector.Readable)
    (segment : List Char) : selectorOf selector.kind segment selector.body = .ok selector := by
  cases selector with
  | css selector reading =>
      obtain ⟨nonempty, trimmed, closed, valid, same⟩ := readable
      have plain := hasBareCombinator_append closed valid
      have whole : Text.trim selector.toList = selector.toList := trimmed
      simp [Selector.kind, Selector.body, selectorOf, plain, splitAttribute_append _ valid same,
        whole, nonempty]
  | json path =>
      obtain ⟨nonempty, trimmed, plain⟩ := readable
      have whole : Text.trim path.toList = path.toList := trimmed
      simp [Selector.kind, Selector.body, selectorOf, plain, whole, nonempty]
  | regex pattern =>
      have compiles : Pattern.ofTerm pattern.source = .ok pattern := by
        rw [Pattern.ofTerm, Pattern.ofSource_source]
      have nonempty : pattern.source.toList.isEmpty = false := by
        rw [List.isEmpty_eq_false_iff]
        exact readable
      simp [Selector.kind, Selector.body, selectorOf, nonempty, compiles, Except.map]
  | text literal => simp [Selector.kind, Selector.body, selectorOf]

/-- The selectors that a body can be read as. -/
inductive ReadFrom (body : List Char) : Selector → Prop
  | css (plain : hasBareCombinator body = false)
      (nonempty : Text.trim (splitAttribute body).1 ≠ []) :
      ReadFrom body
        (.css (String.ofList (Text.trim (splitAttribute body).1)) (splitAttribute body).2)
  | json (plain : hasBareCombinator body = false) (nonempty : Text.trim body ≠ []) :
      ReadFrom body (.json (String.ofList (Text.trim body)))
  | regex {pattern : Pattern} (source : pattern.source.toList = body) (nonempty : body ≠ []) :
      ReadFrom body (.regex pattern)
  | text : ReadFrom body (.text (String.ofList body))

theorem source_of_ofTerm {source : String} {pattern : Pattern}
    (built : Pattern.ofTerm source = .ok pattern) : pattern.source = source := by
  unfold Pattern.ofTerm at built
  split at built
  · next found =>
      cases built
      exact Pattern.source_of_ofSource found
  · cases built

theorem readFrom_of_selectorOf {kind : SelectorKind} {segment body : List Char}
    {selector : Selector} (read : selectorOf kind segment body = .ok selector) :
    selector.kind = kind ∧ ReadFrom body selector := by
  cases kind <;> simp only [selectorOf] at read
  case css =>
    split at read
    · cases read
    · next plain =>
        split at read
        · cases read
        · next nonempty =>
            cases read
            exact ⟨rfl, .css (by simpa using plain) (by simpa using nonempty)⟩
  case json =>
    split at read
    · cases read
    · next plain =>
        split at read
        · cases read
        · next nonempty =>
            cases read
            exact ⟨rfl, .json (by simpa using plain) (by simpa using nonempty)⟩
  case regex =>
    split at read
    · cases read
    · next nonempty =>
        cases built : Pattern.ofTerm (String.ofList body) with
        | error cause => simp [built, Except.map] at read
        | ok pattern =>
            simp only [built, Except.map, Except.ok.injEq] at read
            subst read
            refine ⟨rfl, .regex ?_ (by simpa using nonempty)⟩
            rw [source_of_ofTerm built, String.toList_ofList]
  case text =>
    cases read
    exact ⟨rfl, .text⟩

theorem ReadFrom.readable {body : List Char} {selector : Selector}
    (read : ReadFrom body selector) : selector.Readable := by
  cases read with
  | css plain nonempty =>
      obtain ⟨⟨back, split⟩, valid, same⟩ := splitAttribute_spec body
      refine ⟨by simpa using nonempty, by simpa using Text.trimmed_trim _, ?_, valid, same⟩
      by_contra spaced
      rw [String.toList_ofList, Bool.not_eq_false] at spaced
      have outside := spacedOutside_of_append (spacedOutside_of_trim spaced) back
      rw [split, ((hasBareCombinator_eq_false_iff body).mp plain).2] at outside
      contradiction
  | json plain nonempty =>
      exact ⟨by simpa using nonempty, by simpa using Text.trimmed_trim _,
        by simpa using hasBareCombinator_trim plain⟩
  | regex source nonempty =>
      rw [← source] at nonempty
      exact nonempty
  | text => trivial

private theorem getLast?_append_token (front : List Char) (combinator : Combinator) :
    (front ++ combinator.token).getLast? = some ' ' := by
  simp only [Combinator.token, ← List.append_assoc, List.getLast?_concat]

/-- A trimmed selector list and an attribute hold no combinator that a term follows, if the
selector list holds none. -/
theorem unbroken_append_attribute {selector name : List Char} (unbroken : Unbroken selector)
    (trimmed : Text.Trimmed selector) (valid : isAttributeName name = true) :
    Unbroken (selector ++ '@' :: name) := by
  have spaceless : ' ' ∉ name := notMem_of_isAttributeName valid (by decide) (by decide)
  have after : Unbroken (name ++ []) := (unbroken_append_iff spaceless).mpr unbroken_nil
  rw [List.append_nil] at after
  refine unbroken.append_cons after inert_at (by decide) ?_
  rintro - combinator ⟨front, rfl⟩
  exact trimmed.getLast?_ne (by decide) (getLast?_append_token front combinator)

theorem ReadFrom.unbroken {body : List Char} {selector : Selector}
    (read : ReadFrom body selector) (whole : Unbroken body) : Unbroken selector.body := by
  cases read with
  | css plain nonempty =>
      obtain ⟨front, valid, -⟩ := splitAttribute_spec body
      have inside : Text.trim (splitAttribute body).1 <:+: body :=
        (Text.trim_infix_self _).trans front.isInfix
      refine unbroken_append_attribute ?_ (by simpa using Text.trimmed_trim _) valid
      simpa using Unbroken.of_infix whole inside
  | json plain nonempty =>
      simpa [Selector.body] using Unbroken.of_infix whole (Text.trim_infix_self body)
  | regex source nonempty =>
      rw [← source] at whole
      exact whole
  | text => simpa [Selector.body] using whole

private theorem space_mem_remnant (combinator : Combinator) (followed : Bool) :
    ' ' ∈ combinator.remnant followed := by
  cases followed <;> simp [Combinator.remnant, Combinator.token]

theorem notMem_remnant {c : Char} (inert : Inert c) (notSpace : c ≠ ' ')
    (combinator : Combinator) (followed : Bool) : c ∉ combinator.remnant followed := by
  cases followed <;> cases combinator <;>
    simp [Combinator.remnant, Combinator.token, Combinator.mark, inert.notMark, notSpace]

/-- A selector list with its attribute and a path never end in what would make a combinator with
the text behind it. -/
theorem closed_of_readable {selector : Selector} (readable : selector.Readable)
    (trims : selector.kind = .css ∨ selector.kind = .json) (combinator : Combinator)
    (followed : Bool) : ¬combinator.remnant followed <:+ selector.body := by
  intro ends
  cases selector with
  | css selector reading =>
      obtain ⟨-, -, -, valid, -⟩ := readable
      have absent := notMem_remnant inert_at (by decide) combinator followed
      have behind := suffix_of_suffix_append_cons absent ends
      exact notMem_of_isAttributeName valid (by decide) (by decide)
        (behind.subset (space_mem_remnant combinator followed))
  | json path =>
      obtain ⟨-, trimmed, plain⟩ := readable
      cases followed with
      | true =>
          refine ((hasBareCombinator_eq_false_iff _).mp plain).1 combinator ?_
          rwa [trimmed.trimEnd_eq]
      | false =>
          obtain ⟨front, split⟩ := ends
          refine trimmed.getLast?_ne (c := ' ') (by decide) ?_
          rw [show path.toList = _ from split.symm]
          exact getLast?_append_token front combinator
  | regex pattern => simp [Selector.kind] at trims
  | text literal => simp [Selector.kind] at trims

theorem ReadFrom.remnant {body : List Char} {selector : Selector} (read : ReadFrom body selector)
    {combinator : Combinator} {followed : Bool}
    (ends : combinator.remnant followed <:+ selector.body) :
    combinator.remnant followed <:+ body := by
  have readable := read.readable
  cases read with
  | css plain nonempty => exact absurd ends (closed_of_readable readable (.inl rfl) _ _)
  | json plain nonempty => exact absurd ends (closed_of_readable readable (.inr rfl) _ _)
  | regex source nonempty =>
      rw [← source]
      exact ends
  | text => simpa [Selector.body] using ends

/-- The selector can stand where the body stands that it is read from. -/
theorem ReadFrom.whole {followed : Bool} {body : List Char} {selector : Selector}
    (read : ReadFrom body selector) (whole : Whole followed body) :
    Whole followed selector.body where
  unbroken := read.unbroken whole.unbroken
  closed combinator ends := whole.closed combinator (read.remnant ends)

end Rule

end Gleaner
