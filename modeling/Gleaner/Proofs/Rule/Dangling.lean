import Gleaner.Proofs.Rule.Layout
import Gleaner.Proofs.Rule.Scan.Segment
import Gleaner.Proofs.Rule.Untagged

/-!
# Dangling combinators

A rule is refused before its terms are read exactly when it is blank or a combinator dangles in it:
at its start, or anywhere with nothing but another combinator or the end of the rule behind it.  The
leftmost one is reported.  A rule that is not refused so is refused for its first bad term.
-/

namespace Gleaner.Rule

/-- A combinator with its spaces stands behind `before`, and behind it the text ends or goes on with
the mark of another combinator. -/
def DanglesBehind (text before : List Char) : Prop :=
  ∃ (combinator : Combinator) (after : List Char), text = before ++ combinator.token ++ after ∧
    (after = [] ∨ ∃ (next : Combinator) (rest : List Char), after = next.mark ++ rest)

/-- The text starts with the mark of a combinator, or with a combinator that a term follows. -/
def OpensDangling (text : List Char) : Prop :=
  ∃ (combinator : Combinator) (after : List Char),
    text = combinator.mark ++ after ∨ text = combinator.token ++ after ∧ Tagged after

/-- The combinator behind `before` is the leftmost one that dangles. -/
structure DanglesFirst (text before : List Char) : Prop where
  /-- It dangles. -/
  dangles : DanglesBehind text before
  /-- None dangles before it. -/
  first : ∀ other, DanglesBehind text other → Text.byteLength before ≤ Text.byteLength other

/-- Why a text is not cut. -/
inductive Refused (text : List Char) : RuleError → Prop
  /-- It is blank. -/
  | blank (blank : ∀ c ∈ text, Text.isBlank c = true) : Refused text .emptyRule
  /-- A combinator dangles at its start. -/
  | opening (written : ¬∀ c ∈ text, Text.isBlank c = true) (opens : OpensDangling text) :
      Refused text (.danglingCombinator 0)
  /-- The leftmost combinator that dangles further on. -/
  | inner {before} (written : ¬∀ c ∈ text, Text.isBlank c = true) (starts : ¬OpensDangling text)
      (first : DanglesFirst text before) :
      Refused text (.danglingCombinator (Text.byteLength before + 1))

/-- The error is that of the first segment that is no term. -/
def FirstRefused (segments : List Segment) (error : RuleError) : Prop :=
  ∃ before segment behind, segments = before ++ segment :: behind ∧
    (∀ other ∈ before, ∃ term, termOf other.text = .ok term) ∧ termOf segment.text = .error error

section

variable {text front rest before : List Char}

/-! ## Texts put together -/

theorem isDangling_iff (after : List Char) : isDangling after = true ↔
    after = [] ∨ ∃ (next : Combinator) (rest : List Char), after = next.mark ++ rest := by
  rw [isDangling, Bool.or_eq_true, List.isEmpty_iff, startsWithMark_eq_true_iff]

theorem DanglesBehind.append (dangles : DanglesBehind text before) (front : List Char) :
    DanglesBehind (front ++ text) (front ++ before) := by
  obtain ⟨combinator, after, rfl, hangs⟩ := dangles
  exact ⟨combinator, after, by simp, hangs⟩

/-- What dangles in a text with more in front dangles in the text itself. -/
def FreeBefore (front text : List Char) : Prop :=
  ∀ before, DanglesBehind (front ++ text) before →
    ∃ inner, before = front ++ inner ∧ DanglesBehind text inner

theorem DanglesFirst.append (first : DanglesFirst text before) (free : FreeBefore front text) :
    DanglesFirst (front ++ text) (front ++ before) where
  dangles := first.dangles.append front
  first other dangles := by
    obtain ⟨inner, rfl, within⟩ := free other dangles
    have bounded := first.first inner within
    simpa using bounded

private theorem Uncut.freeBefore {c : Char} (uncut : Uncut (c :: rest)) : FreeBefore [c] rest := by
  rintro before ⟨combinator, after, split, hangs⟩
  rw [← isDangling_iff] at hangs
  cases before with
  | nil => simp [(uncut combinator after split).1] at hangs
  | cons head inner =>
      obtain ⟨rfl, same⟩ := List.cons.inj split
      exact ⟨inner, rfl, combinator, after, same, (isDangling_iff after).mp hangs⟩

private theorem freeBefore_token (combinator : Combinator) (stands : isDangling rest = false) :
    FreeBefore combinator.token rest := by
  rintro before ⟨other, after, split, hangs⟩
  rw [← isDangling_iff] at hangs
  have bare : startsWithMark rest = false := by
    rw [isDangling, Bool.or_eq_false_iff] at stands
    exact stands.2
  rw [List.append_assoc] at split
  obtain ⟨inner, rfl, same⟩ | ⟨middle, token_eq, same⟩ := List.append_eq_append_iff.mp split
  · exact ⟨inner, rfl, other, after, by simp [same], (isDangling_iff after).mp hangs⟩
  · cases middle with
    | nil =>
        refine ⟨[], by simpa using token_eq.symm, other, after, ?_, (isDangling_iff after).mp hangs⟩
        simpa using same.symm
    | cons head middle =>
        obtain ⟨rfl, behind⟩ := List.cons.inj same
        rcases eq_token_or_eq_nil_of_suffix ⟨before, token_eq.symm⟩ with whole | rfl
        · have same_text : other.token ++ after = combinator.token ++ rest := by
            rw [← whole, same, List.cons_append]
          have last : after = rest := (List.append_inj same_text (by simp [length_token])).2
          simp [last, stands] at hangs
        · have marked : startsWithMark rest = true :=
            (startsWithMark_eq_true_iff rest).mpr ⟨other, ' ' :: after, by simpa using behind.symm⟩
          simp [bare] at marked

/-! ## The scan -/

/-- The text is cut if nothing dangles in it; otherwise the offset is that of the mark of the
leftmost combinator that dangles. -/
def Reports (text : List Char) : Except Nat Cuts → Prop
  | .ok _ => ∀ before, ¬DanglesBehind text before
  | .error offset => ∃ before, DanglesFirst text before ∧ offset = Text.byteLength before + 1

theorem Reports.append {result : Except Nat Cuts} {f : Cuts → Cuts}
    (reports : Reports text result) (free : FreeBefore front text) :
    Reports (front ++ text) (cuts.shifted (Text.byteLength front) (result.map f)) := by
  cases result with
  | ok pieces =>
      intro before dangles
      obtain ⟨inner, -, within⟩ := free before dangles
      exact reports inner within
  | error offset =>
      obtain ⟨before, first, rfl⟩ := reports
      exact ⟨front ++ before, first.append free, by simp [Nat.add_assoc]⟩

private theorem reports_nil (pieces : Cuts) : Reports [] (.ok pieces) := by
  rintro before ⟨combinator, after, split, -⟩
  simp [Combinator.token] at split

private theorem reports_of_dangling (combinator : Combinator) (hangs : isDangling rest = true) :
    Reports (combinator.token ++ rest) (.error 1) :=
  ⟨[], ⟨⟨combinator, rest, rfl, (isDangling_iff rest).mp hangs⟩, fun _ _ => Nat.zero_le _⟩, rfl⟩

/-- What the scan skips behind a cut, or steps over, never is a part of what dangles. -/
private theorem reports_cuts (text : List Char) : Reports text (cuts text) := by
  fun_induction cuts text with
  | case1 => exact reports_nil _
  | case2 rest hangs => exact reports_of_dangling .and hangs
  | case3 rest stands opens ih =>
      exact ih.append (freeBefore_token .and (isDangling_of_opensTerm opens))
  | case4 rest stands closed ih => exact ih.append (uncut_token .and stands closed).freeBefore
  | case5 rest hangs => exact reports_of_dangling .or hangs
  | case6 rest stands opens ih =>
      exact ih.append (freeBefore_token .or (isDangling_of_opensTerm opens))
  | case7 rest stands closed ih => exact ih.append (uncut_token .or stands closed).freeBefore
  | case8 c rest notAnd notOr ih =>
      exact ih.append (uncut_cons_of_neither notAnd notOr).freeBefore

/-- What is wrong with a text that is not cut. -/
theorem cuts_eq_error_iff (text : List Char) (offset : Nat) :
    cuts text = .error offset ↔
      ∃ before, DanglesFirst text before ∧ offset = Text.byteLength before + 1 := by
  have reports := reports_cuts text
  cases result : cuts text with
  | ok pieces =>
      rw [result] at reports
      refine ⟨nofun, ?_⟩
      rintro ⟨before, first, -⟩
      exact absurd first.dangles (reports before)
  | error found =>
      rw [result] at reports
      obtain ⟨before, first, rfl⟩ := reports
      constructor
      · rintro ⟨⟩
        exact ⟨before, first, rfl⟩
      · rintro ⟨other, second, rfl⟩
        have same := Nat.le_antisymm (first.first other second.dangles)
          (second.first before first.dangles)
        rw [same]

theorem DanglesBehind.exists_first (dangles : DanglesBehind text before) :
    ∃ leftmost, DanglesFirst text leftmost := by
  have reports := reports_cuts text
  cases result : cuts text with
  | ok pieces =>
      rw [result] at reports
      exact absurd dangles (reports before)
  | error offset =>
      rw [result] at reports
      obtain ⟨leftmost, first, -⟩ := reports
      exact ⟨leftmost, first⟩

/-! ## Rules that are not cut -/

theorem startsDangling_iff_opensDangling (text : List Char) :
    startsDangling text = true ↔ OpensDangling text := by
  simp only [startsDangling_iff, startsWithMark_eq_true_iff, opensTerm_eq_true_iff, OpensDangling,
    Tagged, exists_or]

theorem segments_eq_error_iff (text : List Char) (error : RuleError) :
    segments text = .error error ↔ Refused text error := by
  constructor
  · intro refused
    unfold segments at refused
    split_ifs at refused with empty starts
    · cases refused
      exact .blank ((Text.trim_eq_nil_iff text).mp (by simpa using empty))
    all_goals
      have written : ¬∀ c ∈ text, Text.isBlank c = true := by
        rw [← Text.trim_eq_nil_iff]
        simpa using empty
    · cases refused
      exact .opening written ((startsDangling_iff_opensDangling text).mp starts)
    · split at refused
      · contradiction
      · next offset cut =>
          cases refused
          obtain ⟨before, first, rfl⟩ := (cuts_eq_error_iff text offset).mp cut
          exact .inner written (by rwa [← startsDangling_iff_opensDangling]) first
  · intro refused
    cases refused with
    | blank blank => simp [segments, (Text.trim_eq_nil_iff text).mpr blank]
    | opening written opens =>
        rw [← Text.trim_eq_nil_iff] at written
        simp [segments, written, (startsDangling_iff_opensDangling text).mpr opens]
    | inner written starts first =>
        have cut := (cuts_eq_error_iff text _).mpr ⟨_, first, rfl⟩
        rw [← Text.trim_eq_nil_iff] at written
        rw [← startsDangling_iff_opensDangling] at starts
        simp [segments, written, starts, cut]

/-! ## Terms that are refused -/

private theorem parse_of_segments_eq_error {text : String} {error : RuleError}
    (refused : segments text.toList = .error error) : parse text = .error error := by
  rw [parse, ofText, refused]
  rfl

private theorem parse_eq_error_iff_of_segments {text : String} {chains : List (List Segment)}
    (cut : segments text.toList = .ok chains) (error : RuleError) :
    parse text = .error error ↔ FirstRefused chains.flatten error := by
  rw [FirstRefused, ← mapM_eq_error_iff, ← mapM_chainOf_eq_error_iff, parse, ofText, cut]
  cases result : chains.mapM chainOf <;> simp [bind, Except.bind, Except.map, result]

end

/-- Only blank texts, and those in which a combinator dangles, are not cut; the leftmost such
combinator is reported, also by the scan over the bytes.  A rule that is cut is refused for the
leftmost of its terms that is refused. -/
theorem dangling_combinators (text : String) :
    let characters := text.toList
    let blank := ∀ c ∈ characters, Text.isBlank c = true
    let dangles := ∃ before, DanglesBehind characters before
    Scan.splitGroups characters = Text.lift (segments characters) ∧
      (segments characters = .error .emptyRule ↔ blank) ∧
      (¬blank →
        ((∃ error, segments characters = .error error) ↔ OpensDangling characters ∨ dangles) ∧
        (OpensDangling characters → segments characters = .error (.danglingCombinator 0)) ∧
        (¬OpensDangling characters → dangles → ∃ before, DanglesFirst characters before ∧
          segments characters = .error (.danglingCombinator (Text.byteLength before + 1)))) ∧
      (∀ error, segments characters = .error error →
        (error = .emptyRule ∨ ∃ offset, error = .danglingCombinator offset) ∧
          parse text = .error error) ∧
      ∀ chains, segments characters = .ok chains →
        ∀ error, parse text = .error error ↔ FirstRefused chains.flatten error := by
  intro characters blank dangles
  simp only [segments_eq_error_iff]
  refine ⟨Scan.splitGroups_eq characters, ⟨fun refused => ?_, .blank⟩,
    fun written => ⟨⟨fun ⟨error, refused⟩ => ?_, fun hangs => ?_⟩, .opening written,
      fun starts ⟨before, behind⟩ => ?_⟩,
    fun error refused => ⟨?_, parse_of_segments_eq_error ((segments_eq_error_iff _ _).mpr refused)⟩,
    fun chains cut => parse_eq_error_iff_of_segments cut⟩
  · cases refused with
    | blank blank => exact blank
  · cases refused with
    | blank blank => exact absurd blank written
    | opening _ opens => exact .inl opens
    | inner _ _ first => exact .inr ⟨_, first.dangles⟩
  · by_cases starts : OpensDangling characters
    · exact ⟨_, .opening written starts⟩
    · obtain ⟨before, behind⟩ := hangs.resolve_left starts
      obtain ⟨leftmost, first⟩ := behind.exists_first
      exact ⟨_, .inner written starts first⟩
  · obtain ⟨leftmost, first⟩ := behind.exists_first
    exact ⟨leftmost, first, .inner written starts first⟩
  · cases refused with
    | blank => exact .inl rfl
    | opening => exact .inr ⟨_, rfl⟩
    | inner => exact .inr ⟨_, rfl⟩

/-- A combinator that dangles behind one that is cut at and one that is text, and a rule that is cut
with two terms that are refused. -/
theorem dangling_combinators_behind_cut :
    let text := "@text:价  && @css:.a && y && || @text:b"
    let before := "@text:价  && @css:.a && y".toList
    let other := "@text:价 && @css: || @json:"
    (¬∀ c ∈ text.toList, Text.isBlank c = true) ∧ ¬OpensDangling text.toList ∧
      DanglesBehind text.toList before ∧
      (∃ leftmost, DanglesFirst text.toList leftmost ∧ Text.byteLength leftmost = 26) ∧
      parse text = .error (.danglingCombinator 27) ∧
      (∃ chains, segments other.toList = .ok chains ∧
        FirstRefused chains.flatten (.emptyBody .css)) := by
  intro text before other
  have written : ¬∀ c ∈ text.toList, Text.isBlank c = true := fun blank =>
    absurd (blank '@' (by decide)) (by decide)
  have starts : ¬OpensDangling text.toList := by
    rw [← startsDangling_iff_opensDangling]
    decide
  have behind : DanglesBehind text.toList before :=
    ⟨.and, "|| @text:b".toList, by decide, .inr ⟨.or, " @text:b".toList, by decide⟩⟩
  obtain ⟨-, -, whole, precedes, -⟩ := dangling_combinators text
  obtain ⟨leftmost, first, refused⟩ := (whole written).2.2 starts ⟨before, behind⟩
  have place : segments text.toList = .error (.danglingCombinator 27) := by decide
  have bytes : Text.byteLength leftmost = 26 := by simpa [place] using refused
  obtain ⟨-, -, -, -, terms⟩ := dangling_combinators other
  have cut : segments other.toList = .ok [
      [⟨"@text:价".toList, 0⟩, ⟨"@css:".toList, 13⟩], [⟨"@json:".toList, 22⟩]] := by decide
  exact ⟨written, starts, behind, ⟨leftmost, first, bytes⟩, (precedes _ place).2, _, cut,
    (terms _ cut _).mp (by decide)⟩

end Gleaner.Rule
