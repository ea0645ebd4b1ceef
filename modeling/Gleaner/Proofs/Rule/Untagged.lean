import Gleaner.Proofs.Rule.Concatenation
import Gleaner.Proofs.Rule.WellFormed

/-!
# Texts behind a combinator that open no term

Such a text belongs to the piece in front of the combinator.  When that piece is a path whose
quotations are closed, the combinator is bare and the rule is refused.
-/

namespace Gleaner

/-- The terms of all chains, from left to right. -/
def Rule.terms (rule : Rule) : List Term :=
  rule.groups.flatMap (·.terms)

namespace Rule

/-- The cuts of the text with more text in front, in which there are none. -/
def Cuts.prepend (cuts : Cuts) (front : List Char) : Cuts :=
  { cuts with first := front ++ cuts.first }

/-- The cuts of a text with pieces in front, the last of which goes on in the text. -/
def Cuts.behind (cuts : Cuts) (first : List Char) : List (Combinator × List Char) → Cuts
  | [] => cuts.prepend first
  | (combinator, next) :: more => { (behind cuts next more).cut combinator with first }

/-- A piece is refused, and those in front of it are read. -/
inductive Halts (cause : RuleError) : List Char → List (Combinator × List Char) → Prop
  | here {piece more} (refused : termOf (segmentOf (more.head?.map (·.1)) piece) = .error cause) :
      Halts cause piece more
  | later {piece combinator next more term} (read : Reads (some combinator) piece term)
      (halts : Halts cause next more) : Halts cause piece ((combinator, next) :: more)

section

variable {first next text rest body : List Char} {more : List (Combinator × List Char)}
  {terms : List Term} {chains : List Chain} {cause : RuleError}

/-! ## Cuts of texts put together -/

private theorem map_shifted {bytes : Nat} {result : Except Nat Cuts} {f : Cuts → Cuts} :
    (cuts.shifted bytes result).map f = cuts.shifted bytes (result.map f) := by
  cases result <;> rfl

private theorem shifted_shifted {bytes others : Nat} {result : Except Nat Cuts} :
    cuts.shifted bytes (cuts.shifted others result) = cuts.shifted (bytes + others) result := by
  cases result <;> simp [cuts.shifted, Nat.add_assoc]

private theorem joined_suffix_cons (c : Char) (first : List Char)
    (more : List (Combinator × List Char)) : joined first more <:+ joined (c :: first) more := by
  rw [joined_cons]
  exact List.suffix_cons c _

private theorem cuts_joined_append_cons {c : Char} {bytes : Nat} (well : WellCut (c :: first) more)
    (closed : ∀ combinator : Combinator, ¬(' ' :: combinator.mark) <:+ joined (c :: first) more)
    (same : cuts (joined first more ++ ' ' :: rest) =
      cuts.shifted bytes ((cuts (' ' :: rest)).map (·.behind first more))) :
    cuts (joined (c :: first) more ++ ' ' :: rest) =
      cuts.shifted (c.utf8Size + bytes)
        ((cuts (' ' :: rest)).map (·.behind (c :: first) more)) := by
  have uncut : Uncut (c :: (joined first more ++ ' ' :: rest)) := by
    rw [joined_cons] at closed
    refine uncut_append_space (List.cons_ne_nil c _) (fun combinator after split => ?_) closed rest
    obtain ⟨stands, noTerm⟩ := well.uncut combinator after split
    simp only [isDangling, Bool.or_eq_false_iff] at stands
    exact ⟨stands.2, noTerm⟩
  have longer (inner : Cuts) :
      (inner.behind first more).cons c = inner.behind (c :: first) more := by
    cases more <;> rfl
  rw [joined_cons, List.cons_append, cuts_cons uncut, same, map_shifted, shifted_shifted]
  cases cuts (' ' :: rest) with
  | error offset => rfl
  | ok inner => simp only [Except.map, longer]

private theorem cuts_joined_append (well : WellCut first more)
    (closed : ∀ combinator : Combinator, ¬(' ' :: combinator.mark) <:+ joined first more)
    (rest : List Char) :
    ∃ bytes, cuts (joined first more ++ ' ' :: rest) =
      cuts.shifted bytes ((cuts (' ' :: rest)).map (·.behind first more)) := by
  -- As when the pieces are cut alone: on the pieces that are left, then on the first of them.
  induction more generalizing first with
  | nil =>
      induction first with
      | nil =>
          refine ⟨0, ?_⟩
          cases found : cuts (' ' :: rest) <;>
            simp [joined, found, cuts.shifted, Except.map, Cuts.behind, Cuts.prepend]
      | cons c first ih =>
          obtain ⟨bytes, same⟩ := ih well.tail fun combinator ends =>
            closed combinator (ends.trans (joined_suffix_cons c first []))
          exact ⟨_, cuts_joined_append_cons well closed same⟩
  | cons entry more rest_ih =>
      obtain ⟨combinator, next⟩ := entry
      induction first with
      | nil =>
          obtain ⟨-, opens, inner⟩ := well
          obtain ⟨bytes, same⟩ := rest_ih inner fun other ends =>
            closed other (ends.trans (List.suffix_append _ _))
          have tagged := opensTerm_append (opensTerm_joined opens more) (' ' :: rest)
          refine ⟨4 + bytes, ?_⟩
          rw [joined, List.nil_append, List.append_assoc, cuts_token combinator tagged, same,
            map_shifted, shifted_shifted]
          cases cuts (' ' :: rest) <;> rfl
      | cons c first ih =>
          obtain ⟨bytes, same⟩ := ih well.tail fun other ends =>
            closed other (ends.trans (joined_suffix_cons c first _))
          exact ⟨_, cuts_joined_append_cons well closed same⟩

/-- A text is cut as on its own when characters stand in front of it at which nothing is cut. -/
private theorem cuts_append_of_uncut (word : List Char)
    (uncut : ∀ c back, c :: back <:+ word → Uncut (c :: (back ++ text))) :
    cuts (word ++ text) =
      cuts.shifted (Text.byteLength word) ((cuts text).map (·.prepend word)) := by
  induction word with
  | nil =>
      cases found : cuts text <;>
        simp [found, cuts.shifted, Except.map, Cuts.prepend, Text.byteLength]
  | cons c word ih =>
      have inner := ih fun d back ends => uncut d back (ends.trans (List.suffix_cons c word))
      rw [List.cons_append, cuts_cons (uncut c word (List.suffix_refl _)), inner, map_shifted,
        shifted_shifted]
      cases cuts text <;> rfl

private theorem cuts_token_of_untagged (combinator : Combinator)
    (untagged : opensTerm text = false) :
    (∃ offset, cuts (combinator.token ++ text) = .error offset) ∨
      ∃ pieces : Cuts, cuts (combinator.token ++ text) =
        .ok (pieces.prepend combinator.token) := by
  by_cases hangs : isDangling text = true
  · exact .inl ⟨1, cuts_of_dangling combinator hangs⟩
  have whole : Uncut (combinator.token ++ text) :=
    uncut_token combinator hangs (by simp [untagged])
  have space : Uncut (' ' :: text) := by
    rintro other after split
    refine absurd ?_ hangs
    rw [(List.cons.inj split).2]
    cases other <;> rfl
  have uncut (c : Char) (back : List Char) (ends : c :: back <:+ combinator.token) :
      Uncut (c :: (back ++ text)) := by
    by_cases spaced : c = ' '
    · subst spaced
      rcases eq_token_or_eq_nil_of_suffix ends with same | rfl
      · rwa [← List.cons_append, same]
      · exact space
    · exact uncut_cons_of_ne spaced _
  rw [cuts_append_of_uncut combinator.token uncut]
  cases cuts text with
  | error offset => exact .inl ⟨_, rfl⟩
  | ok pieces => exact .inr ⟨pieces, rfl⟩

/-! ## Rules with a piece that is refused -/

private theorem flatten_chainsFrom_cons (offset : Nat) (piece : List Char) (combinator : Combinator)
    (next : List Char) (more : List (Combinator × List Char)) :
    let found := chainsFrom offset piece ((combinator, next) :: more)
    let rest := chainsFrom (offset + Text.byteLength (piece ++ combinator.token)) next more
    found.1 ++ found.2.flatten =
      { text := beforeCombinator combinator piece, offset } :: (rest.1 ++ rest.2.flatten) := by
  cases combinator <;> simp [chainsFrom]

private theorem mapM_chainsFrom_of_halts (halts : Halts cause first more) (offset : Nat) :
    (((chainsFrom offset first more).1 ++ (chainsFrom offset first more).2.flatten).mapM
      fun segment => termOf segment.text) = .error cause := by
  let read (segment : Segment) := termOf segment.text
  induction halts generalizing offset with
  | @here piece more refused =>
      cases more with
      | nil => exact mapM_cons_of_error refused
      | cons entry more =>
          rw [flatten_chainsFrom_cons]
          exact mapM_cons_of_error refused
  | @later piece combinator next more term reads halts ih =>
      have own : read { text := beforeCombinator combinator piece, offset } = .ok term := reads
      rw [flatten_chainsFrom_cons]
      exact (mapM_cons_of_ok own).trans (congrArg (Except.map (term :: ·)) (ih _))

/-- The error of the first piece that is refused is the error of the rule. -/
theorem parse_of_halts {source : String} (nonblank : Text.trim source.toList ≠ [])
    (start : startsDangling source.toList = false) {pieces : Cuts}
    (cut : cuts source.toList = .ok pieces) (halts : Halts cause pieces.first pieces.more) :
    parse source = .error cause := by
  have found : segments source.toList = .ok pieces.chains := by
    simp [segments, nonblank, start, cut]
  have stops : pieces.chains.mapM chainOf = .error cause :=
    mapM_chainOf_eq_error_iff.mpr (mapM_chainsFrom_of_halts halts 0)
  simp [parse, ofText, found, bind, Except.bind, stops, Except.map]

/-! ## Paths that go on behind a combinator -/

private theorem splitSanitizer_append_token (plain : cutLast false text = none)
    (combinator : Combinator) (rest : List Char) :
    ∃ tail, (splitSanitizer (text ++ (combinator.token ++ rest))).1 =
      text ++ (combinator.token ++ tail) := by
  cases found : cutLast false (text ++ (combinator.token ++ rest)) with
  | none => exact ⟨rest, by simp [splitSanitizer, found]⟩
  | some parts =>
      obtain ⟨before, after⟩ := parts
      obtain ⟨split, bare, -, -⟩ := cutLast_eq_some found
      have absent : '#' ∉ combinator.token := by cases combinator <;> decide
      obtain ⟨middle, rfl, inner⟩ | ⟨middle, rfl, inner⟩ := List.append_eq_append_iff.mp split
      · obtain ⟨tail, rfl, -⟩ := eq_append_of_append_cons absent inner.symm
        exact ⟨tail, by simp [splitSanitizer, found]⟩
      · have escaped := (cutLast_eq_none_iff false (before ++ middle)).mp plain
        rcases middle with _ | ⟨c, _ | ⟨d, middle⟩⟩
        · simp [Combinator.token] at inner
        · simp [Combinator.token] at inner
        · simp only [List.cons_append, List.cons.injEq] at inner
          obtain ⟨rfl, rfl, -⟩ := inner
          rw [escaped before middle rfl] at bare
          contradiction

private theorem unescape_append_token (text : List Char) (combinator : Combinator)
    (rest : List Char) :
    unescape (text ++ (combinator.token ++ rest)) =
      unescape text ++ (combinator.token ++ unescape rest) := by
  have stops : (combinator.token ++ rest).head? ≠ some '#' := by simp [Combinator.token]
  have own : unescape (combinator.token ++ rest) = combinator.token ++ unescape rest := by
    cases combinator <;> rfl
  rw [unescape_append stops, own]

private theorem openQuote_of_trim {body : List Char} (closed : QuotesClosed (Text.trim body)) :
    openQuote none body = none := by
  obtain ⟨leading, split, blank⟩ := Text.exists_blanks_append_trimStart body
  obtain ⟨trailing, inner, blanks⟩ := Text.exists_trimEnd_append_blanks (Text.trimStart body)
  have behind : openQuote none trailing = none := by
    simpa [openQuote] using openQuote_blanks_append blanks []
  have closes := (quotesClosed_iff (Text.trim body)).mp closed
  rw [Text.trim] at closes
  rw [split, openQuote_blanks_append blank, inner, openQuote_append, closes, behind]

private theorem exists_text_of_path {piece : List Char} {path : String}
    (read : termOf piece = .ok (Term.json path)) :
    ∃ text, piece = SelectorKind.json.tag.toList ++ text ∧ cutLast false text = none ∧
      hasBareCombinator (unescape text) = false ∧ path.toList = Text.trim (unescape text) := by
  obtain ⟨kind, text, rfl, selected, narrowed⟩ := (termOf_eq_ok_iff _ _).mp read
  obtain ⟨rfl, source⟩ := readFrom_of_selectorOf selected
  cases parts : splitSanitizer text with | mk body raw =>
  rw [parts] at source narrowed
  obtain rfl : raw = none := by simpa [Term.json] using (sanitizerOf_eq_ok narrowed).1
  obtain ⟨rfl, open_end⟩ := (splitSanitizer_eq_none_iff text body).mp parts
  refine ⟨text, rfl, open_end, ?_⟩
  cases source with
  | json plain nonempty => exact ⟨plain, String.toList_ofList⟩

private theorem termOf_append_token {piece : List Char} {path : String}
    (read : termOf piece = .ok (Term.json path)) (closed : QuotesClosed path.toList)
    (combinator : Combinator) (rest : List Char) (behind : Option Combinator) :
    termOf (segmentOf behind (piece ++ (combinator.token ++ rest))) =
      .error (.combinatorInBody .json (String.ofList (piece ++ (combinator.token ++ rest)))) := by
  obtain ⟨text, rfl, plain, -, same⟩ := exists_text_of_path read
  obtain ⟨tail, split⟩ := splitSanitizer_append_token plain combinator rest
  rw [same] at closed
  have starts : startsSpaced (combinator.token ++ unescape tail) = true :=
    (startsSpaced_eq_true_iff _).mpr ⟨combinator, List.prefix_append _ _⟩
  have spaced : spacedOutside none (unescape text ++ (combinator.token ++ unescape tail)) = true :=
    (spacedOutside_eq_true_iff none _).mpr ⟨_, _, rfl, openQuote_of_trim closed, starts⟩
  have bare : hasBareCombinator (unescape (text ++ (combinator.token ++ tail))) = true := by
    simp [hasBareCombinator, unescape_append_token, spaced]
  rw [List.append_assoc, segmentOf_tag_append (by decide), termOf, splitTag?_append]
  simp only [split, selectorOf, bare, if_true]
  rfl

private theorem not_suffix_of_termOf {piece : List Char} {path : String}
    (read : termOf piece = .ok (Term.json path)) (front : List Char) (combinator : Combinator) :
    ¬(' ' :: combinator.mark) <:+ front ++ piece := by
  intro ends
  obtain ⟨text, rfl, -, bare, -⟩ := exists_text_of_path read
  have colon : ':' ∉ ' ' :: combinator.mark := by cases combinator <;> decide
  have sign : '#' ∉ ' ' :: combinator.mark := by cases combinator <;> decide
  have tagged : (' ' :: combinator.mark) <:+ (front ++ "@json".toList) ++ ':' :: text := by
    simpa [SelectorKind.tag, SelectorKind.name] using ends
  have inside := suffix_of_suffix_append_cons colon tagged
  obtain ⟨body, split⟩ := suffix_unescape_of_suffix sign inside
  have trimmed : Text.trimEnd (unescape text) = unescape text := by
    refine Text.trimEnd_eq_self fun c last => ?_
    rw [← split, List.getLast?_append_cons] at last
    cases combinator <;> cases last <;> rfl
  refine ((hasBareCombinator_eq_false_iff _).mp bare).1 combinator ?_
  rw [trimmed]
  exact ⟨body, split⟩

private theorem getLast?_terms_cons (reads : Aligned Reads first more terms chains) (term : Term)
    (rest : List Term) : (term :: (terms ++ rest)).getLast? = (terms ++ rest).getLast? := by
  obtain ⟨head, tail, rfl⟩ := List.exists_cons_of_ne_nil reads.ne_nil
  rw [List.cons_append, List.getLast?_cons_cons]

private theorem exists_last_piece {term : Term} (reads : Aligned Reads first more terms chains)
    (last : (terms ++ chains.flatMap (·.terms)).getLast? = some term) :
    ∃ front piece, joined first more = front ++ piece ∧ termOf piece = .ok term := by
  induction reads with
  | @last piece term read =>
      obtain rfl : term = _ := by simpa using last
      exact ⟨[], piece, rfl, read⟩
  | @and piece next more term terms chains read behind ih =>
      rw [List.cons_append, getLast?_terms_cons behind] at last
      obtain ⟨front, piece, split, read⟩ := ih last
      exact ⟨_, piece, by rw [joined, split, ← List.append_assoc], read⟩
  | @or piece next more term terms chains read behind ih =>
      rw [List.flatMap_cons, List.singleton_append, getLast?_terms_cons behind] at last
      obtain ⟨front, piece, split, read⟩ := ih last
      exact ⟨_, piece, by rw [joined, split, ← List.append_assoc], read⟩

private theorem halts_of_reads {path : String} (reads : Aligned Reads first more terms chains)
    (last : (terms ++ chains.flatMap (·.terms)).getLast? = some (Term.json path))
    (closed : QuotesClosed path.toList) (combinator : Combinator) (inner : Cuts) :
    ∃ segment, Halts (.combinatorInBody .json segment)
      ((inner.prepend combinator.token).behind first more).first
      ((inner.prepend combinator.token).behind first more).more := by
  induction reads with
  | @last piece term read =>
      obtain rfl : term = Term.json path := by simpa using last
      have refused := termOf_append_token read closed combinator inner.first
        (inner.more.head?.map (·.1))
      exact ⟨_, .here refused⟩
  | @and piece next more term terms chains read behind ih =>
      rw [List.cons_append, getLast?_terms_cons behind] at last
      obtain ⟨segment, halts⟩ := ih last
      exact ⟨segment, .later read halts⟩
  | @or piece next more term terms chains read behind ih =>
      rw [List.flatMap_cons, List.singleton_append, getLast?_terms_cons behind] at last
      obtain ⟨segment, halts⟩ := ih last
      exact ⟨segment, .later read halts⟩

/-- Behind a rule that ends in a path whose quotations are closed, a combinator that opens no term
makes a malformed rule: it dangles, or it is reported in the path. -/
theorem parse_error_of_untagged {left text : String} {rule : Rule} {path : String}
    {combinator : Combinator} {right : List Char} (read : parse left = .ok rule)
    (last : rule.terms.getLast? = some (Term.json path)) (closed : QuotesClosed path.toList)
    (untagged : opensTerm right = false)
    (split : text.toList = left.toList ++ combinator.token ++ right) :
    (∃ offset, parse text = .error (.danglingCombinator offset)) ∨
      ∃ segment, parse text = .error (.combinatorInBody .json segment) := by
  obtain ⟨-, -, ⟨first, more⟩, ⟨same, well⟩, terms, chains, groups, reads⟩ :=
    (parse_eq_ok_iff left rule).mp read
  have opens : opensTerm text.toList = true := by
    rw [split, ← same, List.append_assoc]
    exact opensTerm_append (opensTerm_joined (opensTerm_of_reads reads) more) _
  have nonblank := trim_ne_nil_of_opensTerm opens
  have start := startsDangling_of_opensTerm opens
  have parts : rule.terms = terms ++ chains.flatMap (·.terms) := by
    rw [Rule.terms, groups, List.flatMap_cons]
  rw [parts] at last
  have ends : ∀ other : Combinator, ¬(' ' :: other.mark) <:+ joined first more := by
    obtain ⟨front, piece, split, read⟩ := exists_last_piece reads last
    rw [split]
    exact not_suffix_of_termOf read front
  have seam : text.toList =
      joined first more ++ ' ' :: (combinator.mark ++ ' ' :: right) := by
    simp [split, ← same, Combinator.token]
  obtain ⟨bytes, cut⟩ := cuts_joined_append well ends (combinator.mark ++ ' ' :: right)
  rw [← seam] at cut
  have token : ' ' :: (combinator.mark ++ ' ' :: right) = combinator.token ++ right := by
    simp [Combinator.token]
  rw [token] at cut
  rcases cuts_token_of_untagged combinator untagged with ⟨offset, hangs⟩ | ⟨inner, pieces⟩
  · left
    rw [hangs] at cut
    refine ⟨bytes + offset, ?_⟩
    simp [parse, ofText, segments, nonblank, start, cut, cuts.shifted, Except.map, bind,
      Except.bind]
  · right
    rw [pieces] at cut
    obtain ⟨segment, halts⟩ := halts_of_reads reads last closed combinator inner
    exact ⟨segment, parse_of_halts nonblank start cut halts⟩

end

end Rule

end Gleaner
