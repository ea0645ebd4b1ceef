import Gleaner.Proofs.Rule.Term
import Mathlib.Data.List.Chain

/-!
# Where the segments of a rule stand

The segments of a rule are slices of it, in order and with nothing but combinators between them,
so the rule can be put together again from its segments.  A combinator is cut at exactly where
the opening of a term follows it.
-/

namespace Gleaner.Rule

/-- The text starts with `@`, a word and a colon. -/
def Tagged (text : List Char) : Prop :=
  ∃ word rest, text = '@' :: word ++ ':' :: rest ∧ word ≠ [] ∧ ∀ c ∈ word, isTagChar c = true

/-- The text is a literal that ends in a colon, and a backslash stands in front of each of its
pairs of number signs. -/
def Label (text : List Char) : Prop :=
  ∃ literal, text = "@text:".toList ++ literal ∧
    (∀ before after, literal = before ++ '#' :: '#' :: after → before.getLast? = some '\\') ∧
      (literal.getLast? = some ':' ∨ literal.getLast? = some '：')

theorem isLabel_iff_label (text : List Char) : isLabel text = true ↔ Label text := by
  have tag : SelectorKind.text.tag.toList = "@text:".toList := rfl
  have escaped (before : List Char) :
      endsEscaped false before = true ↔ before.getLast? = some '\\' := by
    rw [← not_iff_not, Bool.not_eq_true, endsEscaped_false_iff]
  simp only [isLabel_eq_true_iff, tag, cutLast_eq_none_iff, escaped, Label]

namespace Segment

/-- Number of bytes of the rule up to the end of the segment. -/
def stop (segment : Segment) : Nat :=
  segment.offset + Text.byteLength segment.text

/-- The segment is the part of the text that begins at its offset. -/
def SliceOf (text : List Char) (segment : Segment) : Prop :=
  ∃ before after, text = before ++ segment.text ++ after ∧
    Text.byteLength before = segment.offset

end Segment

/-- Nothing but the combinator stands between the two segments; its first space is the end of the
left one where that is a label in front of `&&`. -/
def Meets (text : List Char) (combinator : Combinator) (left right : Segment) : Prop :=
  ∃ before body after, text = before ++ body ++ combinator.token ++ right.text ++ after ∧
    Text.byteLength before = left.offset ∧
    Text.byteLength (before ++ body ++ combinator.token) = right.offset ∧
    (combinator = .and ∧ Label body ∧ left.text = body ++ [' '] ∨
      ¬(combinator = .and ∧ Label body) ∧ left.text = body)

/-- The end of the combinator that fills the bytes between the two segments. -/
def gap (combinator : Combinator) (left right : Segment) : List Char :=
  combinator.token.drop (combinator.token.length - (right.offset - left.stop))

/-- The text of a chain, put together from its segments. -/
def rejoinChain : List Segment → List Char
  | [] => []
  | [last] => last.text
  | left :: right :: rest => left.text ++ gap .and left right ++ rejoinChain (right :: rest)

/-- The text of a rule, put together from the segments of its chains. -/
def rejoin : List (List Segment) → List Char
  | [] => []
  | [chain] => rejoinChain chain
  | chain :: next :: chains =>
      rejoinChain chain ++ Combinator.or.token ++ rejoin (next :: chains)

/-- The segments begin behind `front`, end with the text, and are cut where terms open. -/
structure Covers (text front : List Char) (segments : List Segment) : Prop where
  /-- Each segment is a slice of the text. -/
  slices : ∀ segment ∈ segments, segment.SliceOf text
  /-- No segment is empty. -/
  nonempty : ∀ segment ∈ segments, segment.text ≠ []
  /-- The first segment begins behind `front`. -/
  starts : segments.head?.map Segment.offset = some (Text.byteLength front)
  /-- The last segment ends with the text. -/
  ends : segments.getLast?.map Segment.stop = some (Text.byteLength text)
  /-- Each segment after the first opens a term. -/
  tagged : ∀ segment ∈ segments.tail, Tagged segment.text
  /-- No combinator inside a segment stands in front of the opening of a term. -/
  uncut : ∀ segment ∈ segments, ∀ before after,
    text = before ++ segment.text ++ after → Text.byteLength before = segment.offset →
      ∀ inner (combinator : Combinator) rest, segment.text = inner ++ combinator.token ++ rest →
        ¬Tagged (rest ++ after)

/-- The chains are what the text behind `front` is cut into. -/
structure Layout (text front : List Char) (chains : List (List Segment)) : Prop where
  /-- The segments of all chains, in order. -/
  covers : Covers text front chains.flatten
  /-- There are chains. -/
  exist : chains ≠ []
  /-- No chain is empty. -/
  nonempty : ∀ chain ∈ chains, chain ≠ []
  /-- The segments of a chain have `&&` between them. -/
  within : ∀ chain ∈ chains, chain.IsChain (Meets text .and)
  /-- The chains have `||` between them. -/
  across : chains.IsChain fun left right =>
    ∃ last ∈ left.getLast?, ∃ first ∈ right.head?, Meets text .or last first
  /-- The chains make up the text behind `front`. -/
  rejoins : front ++ rejoin chains = text

/-! ## One segment -/

section

variable {text front first rest : List Char} {combinator : Combinator}

private theorem beforeCombinator_cases (combinator : Combinator) (body : List Char) :
    combinator = .and ∧ Label body ∧ beforeCombinator combinator body = body ++ [' '] ∨
      ¬(combinator = .and ∧ Label body) ∧ beforeCombinator combinator body = body := by
  by_cases kept : combinator = .and ∧ Label body
  · refine .inl ⟨kept.1, kept.2, ?_⟩
    simp [beforeCombinator, kept.1, (isLabel_iff_label body).mpr kept.2]
  · refine .inr ⟨kept, ?_⟩
    rw [beforeCombinator, if_neg]
    simpa [isLabel_iff_label] using kept

private theorem exists_beforeCombinator_append (combinator : Combinator) (body : List Char) :
    ∃ kept left, beforeCombinator combinator body = body ++ kept ∧
      combinator.token = kept ++ left ∧ kept.length ≤ 1 := by
  obtain ⟨-, -, same⟩ | ⟨-, same⟩ := beforeCombinator_cases combinator body
  · exact ⟨[' '], combinator.mark ++ [' '], same, rfl, Nat.le_refl 1⟩
  · exact ⟨[], combinator.token, by rw [same, List.append_nil], rfl, Nat.zero_le 1⟩

theorem length_token (combinator : Combinator) : combinator.token.length = 4 := by
  cases combinator <;> rfl

private theorem byteLength_suffix_token {left : List Char} (ends : left <:+ combinator.token) :
    Text.byteLength left = left.length := by
  have narrow : ∀ c ∈ left, c.utf8Size = 1 := by
    intro c member
    have inside := ends.subset member
    cases combinator <;>
      simp only [Combinator.token, Combinator.mark, List.cons_append, List.nil_append,
        List.mem_cons, List.not_mem_nil, or_false] at inside <;>
      rcases inside with rfl | rfl | rfl | rfl <;> rfl
  clear ends
  induction left with
  | nil => rfl
  | cons c rest ih =>
      rw [Text.byteLength, narrow c List.mem_cons_self, List.length_cons,
        ih fun d member => narrow d (List.mem_cons_of_mem c member), Nat.add_comm]

/-- A combinator inside the piece, or inside the piece and one space behind it, is not in front of
the opening of a term. -/
private theorem Whole.opensTerm_eq_false {inner after : List Char} (whole : Whole true first)
    (split : first ++ ' ' :: rest = inner ++ (combinator.token ++ after))
    (inside : inner.length + 4 ≤ first.length + 1) : opensTerm after = false := by
  have shorter : inner.length < first.length := by omega
  obtain ⟨middle, rfl, behind⟩ | ⟨middle, rfl, behind⟩ := List.append_eq_append_iff.mp split
  · rw [List.length_append] at shorter
    omega
  · cases middle with
    | nil => simp at shorter
    | cons c tail =>
        have piece := whole.of_suffix (List.suffix_append inner (c :: tail))
        exact (piece.uncut_append rest combinator after behind.symm).2

private theorem not_tagged_of_opensTerm_eq_false {after : List Char}
    (closed : opensTerm after = false) : ¬Tagged after := by
  intro tagged
  rw [Tagged, ← opensTerm_eq_true_iff, closed] at tagged
  contradiction

private theorem not_tagged_behind {inner after back : List Char} {other : Combinator}
    (whole : Whole true first)
    (split : beforeCombinator combinator first = inner ++ other.token ++ back)
    (behind : beforeCombinator combinator first ++ after = first ++ combinator.token ++ rest) :
    ¬Tagged (back ++ after) := by
  obtain ⟨kept, left, same, -, short⟩ := exists_beforeCombinator_append combinator first
  have lengths := congrArg List.length split
  rw [same] at lengths
  simp only [List.length_append, length_token] at lengths
  have inside : inner.length + 4 ≤ first.length + 1 := by omega
  have here : first ++ ' ' :: (combinator.mark ++ ' ' :: rest) =
      inner ++ (other.token ++ (back ++ after)) := by
    rw [split] at behind
    simpa [Combinator.token] using behind.symm
  exact not_tagged_of_opensTerm_eq_false (whole.opensTerm_eq_false here inside)

private theorem beforeCombinator_append_gap {next : Segment}
    (offset : next.offset = Text.byteLength (front ++ first ++ combinator.token)) :
    beforeCombinator combinator first ++ gap combinator
        { text := beforeCombinator combinator first, offset := Text.byteLength front } next =
      first ++ combinator.token := by
  obtain ⟨kept, left, same, token, -⟩ := exists_beforeCombinator_append combinator first
  have ends : left <:+ combinator.token := ⟨kept, token.symm⟩
  have narrow : Text.byteLength left = left.length := byteLength_suffix_token ends
  have room : next.offset - Segment.stop ⟨first ++ kept, Text.byteLength front⟩ = left.length := by
    simp only [offset, Segment.stop, token, Text.byteLength_append, narrow]
    omega
  have skipped : (kept ++ left).length - left.length = kept.length := by simp
  rw [gap, same, room, token, skipped, List.drop_left, List.append_assoc]

/-! ## One segment more -/

theorem Covers.last (split : text = front ++ first) (whole : Whole false first)
    (nonempty : first ≠ []) :
    Covers text front [{ text := first, offset := Text.byteLength front }] where
  slices := by simpa [Segment.SliceOf] using ⟨front, ⟨[], by simpa using split⟩, rfl⟩
  nonempty := by simpa using nonempty
  starts := rfl
  ends := by simp [Segment.stop, split]
  tagged := by simp
  uncut := by
    simp only [List.mem_singleton, forall_eq]
    intro before after here bytes inner combinator rest inside
    rw [split, List.append_assoc] at here
    obtain ⟨-, behind⟩ := Text.append_inj_of_byteLength here bytes.symm
    obtain rfl : after = [] := by simpa using behind.symm
    rw [List.append_nil]
    exact not_tagged_of_opensTerm_eq_false (whole.unbroken inner combinator rest inside).2

section

variable {next : Segment} {segments chain : List Segment} {chains : List (List Segment)}

theorem Covers.cons (split : text = front ++ first ++ combinator.token ++ rest)
    (whole : Whole true first) (nonempty : first ≠ []) (opens : Tagged next.text)
    (behind : Covers text (front ++ first ++ combinator.token) (next :: segments)) :
    Covers text front ({ text := beforeCombinator combinator first,
                         offset := Text.byteLength front } :: next :: segments) where
  slices := by
    refine List.forall_mem_cons.mpr ⟨?_, behind.slices⟩
    obtain ⟨kept, left, same, token, -⟩ := exists_beforeCombinator_append combinator first
    exact ⟨front, left ++ rest, by simp [split, same, token], rfl⟩
  nonempty := by
    refine List.forall_mem_cons.mpr ⟨?_, behind.nonempty⟩
    obtain ⟨kept, -, same, -⟩ := exists_beforeCombinator_append combinator first
    simp [same, nonempty]
  starts := rfl
  ends := by simpa using behind.ends
  tagged := List.forall_mem_cons.mpr ⟨opens, behind.tagged⟩
  uncut := by
    refine List.forall_mem_cons.mpr ⟨?_, behind.uncut⟩
    intro before after here bytes inner other back inside
    rw [split, List.append_assoc, List.append_assoc, List.append_assoc before] at here
    obtain ⟨-, same⟩ := Text.append_inj_of_byteLength here bytes.symm
    exact not_tagged_behind whole inside (by simpa using same.symm)

private theorem Covers.offset_eq (covers : Covers text front (next :: segments)) :
    next.offset = Text.byteLength front := by
  simpa using covers.starts

private theorem Covers.meets (split : text = front ++ first ++ combinator.token ++ rest)
    (behind : Covers text (front ++ first ++ combinator.token) (next :: segments)) :
    Meets text combinator
      { text := beforeCombinator combinator first, offset := Text.byteLength front } next := by
  have offset := behind.offset_eq
  obtain ⟨before, after, here, bytes⟩ := behind.slices next List.mem_cons_self
  rw [split, List.append_assoc before] at here
  obtain ⟨-, same⟩ := Text.append_inj_of_byteLength here (offset.symm.trans bytes.symm)
  exact ⟨front, first, after, by rw [split, same, List.append_assoc _ next.text], rfl, offset.symm,
    beforeCombinator_cases combinator first⟩

theorem Layout.last (split : text = front ++ first) (whole : Whole false first)
    (nonempty : first ≠ []) :
    Layout text front [[{ text := first, offset := Text.byteLength front }]] where
  covers := Covers.last split whole nonempty
  exist := by simp
  nonempty := by simp
  within := by simp
  across := by simp
  rejoins := split.symm

private theorem rejoin_and (left : Segment) :
    rejoin ((left :: next :: chain) :: chains) =
      left.text ++ gap .and left next ++ rejoin ((next :: chain) :: chains) := by
  cases chains <;> simp [rejoin, rejoinChain]

theorem Layout.and (split : text = front ++ first ++ Combinator.and.token ++ rest)
    (whole : Whole true first) (nonempty : first ≠ []) (opens : Tagged next.text)
    (behind : Layout text (front ++ first ++ Combinator.and.token) ((next :: chain) :: chains)) :
    Layout text front (({ text := beforeCombinator .and first,
                          offset := Text.byteLength front } :: next :: chain) :: chains) where
  covers := behind.covers.cons split whole nonempty opens
  exist := by simp
  nonempty := by
    obtain ⟨-, others⟩ := List.forall_mem_cons.mp behind.nonempty
    exact List.forall_mem_cons.mpr ⟨by simp, others⟩
  within := by
    obtain ⟨own, others⟩ := List.forall_mem_cons.mp behind.within
    exact List.forall_mem_cons.mpr
      ⟨List.isChain_cons_cons.mpr ⟨behind.covers.meets split, own⟩, others⟩
  across := by
    cases chains with
    | nil => simp
    | cons other chains => simpa [List.isChain_cons_cons] using behind.across
  rejoins := by
    rw [rejoin_and, beforeCombinator_append_gap behind.covers.offset_eq]
    simpa using behind.rejoins

theorem Layout.or (split : text = front ++ first ++ Combinator.or.token ++ rest)
    (whole : Whole true first) (nonempty : first ≠ []) (opens : Tagged next.text)
    (behind : Layout text (front ++ first ++ Combinator.or.token) ((next :: chain) :: chains)) :
    Layout text front ([{ text := beforeCombinator .or first,
                          offset := Text.byteLength front }] :: (next :: chain) :: chains) where
  covers := behind.covers.cons split whole nonempty opens
  exist := by simp
  nonempty := List.forall_mem_cons.mpr ⟨by simp, behind.nonempty⟩
  within := List.forall_mem_cons.mpr ⟨by simp, behind.within⟩
  across := List.isChain_cons_cons.mpr
    ⟨⟨_, rfl, next, rfl, behind.covers.meets split⟩, behind.across⟩
  rejoins := by
    have plain : beforeCombinator .or first = first := by simp [beforeCombinator]
    simpa [rejoin, rejoinChain, plain] using behind.rejoins

end

end

/-! ## All segments -/

private theorem exists_chainsFrom_eq_cons (offset : Nat) (first : List Char)
    (more : List (Combinator × List Char)) :
    ∃ kept chain,
      (chainsFrom offset first more).1 = { text := first ++ kept, offset } :: chain := by
  cases more with
  | nil => exact ⟨[], [], by simp [chainsFrom]⟩
  | cons entry more =>
      obtain ⟨combinator, next⟩ := entry
      obtain ⟨kept, -, same, -⟩ := exists_beforeCombinator_append combinator first
      cases combinator with
      | and => exact ⟨kept, _, by simp only [chainsFrom, same]; rfl⟩
      | or => exact ⟨kept, _, by simp only [chainsFrom, same]; rfl⟩

private theorem tagged_of_opensTerm {text : List Char} (opens : opensTerm text = true) :
    Tagged text :=
  (opensTerm_eq_true_iff text).mp opens

private theorem ne_nil_of_opensTerm {text : List Char} (opens : opensTerm text = true) :
    text ≠ [] := by
  rintro rfl
  contradiction

private theorem layout_chainsFrom {text first : List Char} {more : List (Combinator × List Char)}
    (front : List Char) (split : text = front ++ joined first more) (well : WellCut first more)
    (nonempty : first ≠ []) :
    Layout text front ((chainsFrom (Text.byteLength front) first more).1 ::
      (chainsFrom (Text.byteLength front) first more).2) := by
  induction more generalizing front first with
  | nil => exact Layout.last split well nonempty
  | cons entry more ih =>
      obtain ⟨combinator, next⟩ := entry
      obtain ⟨whole, opens, rest⟩ := well
      have here : text = front ++ first ++ combinator.token ++ joined next more := by
        simpa [joined] using split
      have behind := ih _ here rest (ne_nil_of_opensTerm opens)
      have start : Text.byteLength front + Text.byteLength (first ++ combinator.token) =
          Text.byteLength (front ++ first ++ combinator.token) := by
        simp
      obtain ⟨kept, chain, head⟩ := exists_chainsFrom_eq_cons
        (Text.byteLength (front ++ first ++ combinator.token)) next more
      have tagged : Tagged (next ++ kept) := tagged_of_opensTerm (opensTerm_append opens kept)
      rw [head] at behind
      simp only [chainsFrom, start, head]
      cases combinator with
      | and => exact behind.and here whole nonempty tagged
      | or => exact behind.or here whole nonempty tagged

private theorem first_ne_nil {text : List Char} {pieces : Cuts} (nonblank : Text.trim text ≠ [])
    (start : startsDangling text = false) (cut : pieces.Of text) : pieces.first ≠ [] := by
  obtain ⟨first, more⟩ := pieces
  obtain ⟨rfl, well⟩ := cut
  rintro rfl
  cases more with
  | nil => exact nonblank rfl
  | cons entry more =>
      obtain ⟨combinator, next⟩ := entry
      have opens := opensTerm_joined well.2.1 more
      cases combinator <;>
        simp [joined, Combinator.token, Combinator.mark, startsDangling, startsWithMark, opens]
          at start

/-- The segments of a rule are slices of it that begin with the rule, end with it, and have
nothing but combinators between them; each one after the first opens a term, and no combinator
inside one stands in front of the opening of a term. -/
theorem layout_of_segments {text : List Char} {chains : List (List Segment)}
    (found : segments text = .ok chains) : Layout text [] chains := by
  obtain ⟨nonblank, start, pieces, cut, rfl⟩ := (segments_eq_ok_iff text chains).mp found
  exact layout_chainsFrom [] cut.1.symm cut.2 (first_ne_nil nonblank start cut)

/-- A label keeps the space in front of `&&`, and offsets count bytes. -/
theorem layout_of_label_rule :
    ∃ chains, segments "@text:价格： && @css:.p || @text:a && b".toList = .ok chains ∧
      Layout "@text:价格： && @css:.p || @text:a && b".toList [] chains := by
  have found : segments "@text:价格： && @css:.p || @text:a && b".toList =
      .ok [[⟨"@text:价格： ".toList, 0⟩, ⟨"@css:.p".toList, 19⟩],
        [⟨"@text:a && b".toList, 30⟩]] := by decide
  exact ⟨_, found, layout_of_segments found⟩

end Gleaner.Rule
