import Gleaner.Proofs.Rule.Scan.Term

/-!
# Scans of rules

A scan of a rule always stands at a character of the rule when it takes a slice, since only the
byte of a space lets it take one.  So it cuts the rule where it is cut on characters.
-/

namespace Gleaner.Rule.Scan

open Text

section

variable {text before piece rest : List Char} {c : Char} {combinator : Combinator}

/-! ## Combinators -/

private theorem startingCombinator_token (combinator : Combinator) (rest : List Char) :
    startingCombinator (combinator.token ++ rest) = some combinator := by
  cases combinator <;> rfl

private theorem exists_of_startingCombinator (starts : startingCombinator text = some combinator) :
    ∃ rest, text = combinator.token ++ rest := by
  unfold startingCombinator at starts
  split_ifs at starts with first second
  · obtain ⟨rest, same⟩ := List.isPrefixOf_iff_prefix.mp first
    obtain rfl := Option.some.inj starts
    exact ⟨rest, same.symm⟩
  · obtain ⟨rest, same⟩ := List.isPrefixOf_iff_prefix.mp second
    obtain rfl := Option.some.inj starts
    exact ⟨rest, same.symm⟩

private theorem startingCombinator_cons (other : c ≠ ' ') (rest : List Char) :
    startingCombinator (c :: rest) = none := by
  cases starts : startingCombinator (c :: rest) with
  | none => rfl
  | some combinator =>
      obtain ⟨tail, split⟩ := exists_of_startingCombinator starts
      exact absurd (List.cons.inj split).1 other

private theorem combinatorAt_append (before : List Char) (c : Char) (rest : List Char) {k : Nat}
    (inside : k < c.utf8Size) :
    combinatorAt (before ++ c :: rest) (byteLength before + k) =
      .ok (startingCombinator (c :: rest)) := by
  obtain ⟨byte, there, code⟩ : ∃ byte, (_ : Scanned UInt8) = _ ∧ _ :=
    byteAt_append before c rest inside
  have space := code ' ' (by decide)
  by_cases same : c = ' '
  · have first : k = 0 := by
      have one : c.utf8Size = 1 := by rw [same]; rfl
      omega
    have here : (sliceFrom (before ++ c :: rest) (byteLength before) : Scanned _) =
        .ok (c :: rest) := sliceFrom_append before _
    rw [first, Nat.add_zero] at there ⊢
    simp [combinatorAt, there, here, bind, Except.bind, pure, Except.pure, space.mpr same]
  · rw [startingCombinator_cons same]
    simp [combinatorAt, there, bind, Except.bind, pure, Except.pure, space, same]

/-! ## Rounds -/

/-- The scanner behind `before` and the part `piece` of the segment that it is in. -/
def standing (before piece : List Char) (chain : List Segment) (groups : List (List Segment)) :
    Scanner where
  start := byteLength before
  index := byteLength (before ++ piece)
  chain := chain
  groups := groups

private theorem byteLength_token (combinator : Combinator) : byteLength combinator.token = 4 := by
  cases combinator <;> rfl

private theorem sliceFrom_token (before : List Char) (combinator : Combinator) (rest : List Char) :
    (sliceFrom (before ++ (combinator.token ++ rest)) (byteLength before + 4) : Scanned _) =
      .ok rest := by
  have place : byteLength before + 4 = byteLength (before ++ combinator.token) := by
    rw [byteLength_append, byteLength_token]
  rw [place, ← List.append_assoc]
  exact sliceFrom_append _ _

variable {chain : List Segment} {groups : List (List Segment)}

private theorem run_of_round {scanner : Scanner} (inside : scanner.index < byteLength text) :
    scanner.run text = scanner.round text >>= Scanner.run text := by
  rw [Scanner.run, dif_pos inside]
  split
  · next failed =>
      rw [failed]
      rfl
  · next went =>
      simp only [went]
      rfl

private theorem round_of_uncut (split : text = before ++ piece ++ c :: rest)
    (uncut : Uncut (c :: rest)) {k : Nat} (inside : k < c.utf8Size) {scanner : Scanner}
    (index : scanner.index = byteLength (before ++ piece) + k) :
    scanner.round text = .ok scanner.skip := by
  have here := combinatorAt_append (before ++ piece) c rest inside
  rw [← split, ← index] at here
  cases starts : startingCombinator (c :: rest) with
  | none =>
      simp only [Scanner.round, here, starts, bind, Except.bind]
      rfl
  | some combinator =>
      obtain ⟨tail, same⟩ := exists_of_startingCombinator starts
      obtain ⟨stands, untagged⟩ := uncut combinator tail same
      have first : k = 0 := by
        obtain ⟨rfl, -⟩ := List.cons.inj same
        have one : ' '.utf8Size = 1 := rfl
        omega
      have behind := sliceFrom_token (before ++ piece) combinator tail
      rw [← same, ← split, ← Nat.add_zero (byteLength _), ← first, ← index] at behind
      simp [Scanner.round, here, starts, behind, stands, untagged, bind, Except.bind, pure,
        Except.pure]

private theorem combinatorAt_token (before : List Char) (combinator : Combinator)
    (rest : List Char) :
    combinatorAt (before ++ (combinator.token ++ rest)) (byteLength before) =
      .ok (some combinator) := by
  have first : 0 < ' '.utf8Size := Nat.one_pos
  have here := combinatorAt_append before ' ' (combinator.mark ++ ' ' :: rest) first
  have token : ' ' :: (combinator.mark ++ ' ' :: rest) = combinator.token ++ rest := by
    simp [Combinator.token]
  rwa [token, startingCombinator_token, Nat.add_zero] at here

private theorem round_of_dangling (split : text = before ++ piece ++ (combinator.token ++ rest))
    (hangs : isDangling rest = true) :
    (standing before piece chain groups).round text =
      .error (.refused (.danglingCombinator (byteLength (before ++ piece) + 1))) := by
  have here := combinatorAt_token (before ++ piece) combinator rest
  have behind := sliceFrom_token (before ++ piece) combinator rest
  rw [← split] at here behind
  simp only [Scanner.round, standing, here, behind, hangs, if_true, bind, Except.bind]
  rfl

private theorem round_of_opensTerm (split : text = before ++ piece ++ (combinator.token ++ rest))
    (opens : opensTerm rest = true) :
    (standing before piece chain groups).round text =
      ((standing before piece chain groups).segment text combinator).map
        ((standing before piece chain groups).push combinator) := by
  have here := combinatorAt_token (before ++ piece) combinator rest
  have behind := sliceFrom_token (before ++ piece) combinator rest
  have stands := isDangling_of_opensTerm opens
  rw [← split] at here behind
  rw [Scanner.round, standing]
  simp only [here, behind, opens, stands, if_true, bind, Except.bind]
  cases (standing before piece chain groups).segment text combinator <;> rfl

private theorem segmentBetween_append (before part after : List Char) :
    segmentBetween (before ++ part ++ after) (byteLength before) (byteLength (before ++ part)) =
      if part = [] then .error (.refused (.danglingCombinator (byteLength before)))
      else .ok { text := part, offset := byteLength before } := by
  cases part with
  | nil => simp [segmentBetween]
  | cons c part =>
      have apart : byteLength before ≠ byteLength (before ++ c :: part) := by
        have positive := c.utf8Size_pos
        simp only [byteLength_append, byteLength]
        omega
      rw [segmentBetween, if_neg apart, slice_append]
      rfl

private theorem segment_standing (split : text = before ++ piece ++ (combinator.token ++ rest)) :
    (standing before piece chain groups).segment text combinator =
      if piece = [] then .error (.refused (.danglingCombinator (byteLength before)))
      else .ok { text := beforeCombinator combinator piece, offset := byteLength before } := by
  have part : (slice text (byteLength before) (byteLength (before ++ piece)) : Scanned _) =
      .ok piece := by
    rw [split]
    exact slice_append before piece _
  have plain := segmentBetween_append before piece (combinator.token ++ rest)
  rw [← split] at plain
  cases combinator with
  | or => simpa [Scanner.segment, standing, beforeCombinator] using plain
  | and =>
      simp only [Scanner.segment, standing, part, isLabel_eq, bind, Except.bind]
      cases label : Rule.isLabel piece with
      | false => simpa [beforeCombinator, label] using plain
      | true =>
          have nonempty : piece ≠ [] := by
            rintro rfl
            simp [Rule.isLabel, SelectorKind.tag, SelectorKind.name] at label
          -- A label reaches over the first space of the combinator.
          have spaced := segmentBetween_append before (piece ++ [' ']) ("&& ".toList ++ rest)
          have longer : byteLength (before ++ (piece ++ [' '])) =
              byteLength (before ++ piece) + 1 := by
            rw [← List.append_assoc, byteLength_append]
            rfl
          have same : before ++ (piece ++ [' ']) ++ ("&& ".toList ++ rest) = text := by
            simp [split, Combinator.token, Combinator.mark]
          rw [same, longer] at spaced
          simpa [beforeCombinator, label, nonempty] using spaced

/-! ## Runs -/

/-- What a run gives whose scanner stands in front of a text with these cuts. -/
def completed (before piece : List Char) (chain : List Segment) (groups : List (List Segment)) :
    Except Nat Cuts → Scanned (List (List Segment))
  | .error offset => .error (.refused (.danglingCombinator (byteLength (before ++ piece) + offset)))
  | .ok cuts =>
      let (own, others) := chainsFrom (byteLength before) (piece ++ cuts.first) cuts.more
      .ok (groups ++ (chain ++ own) :: others)

private theorem run_of_uncut (split : text = before ++ piece ++ c :: rest)
    (uncut : Uncut (c :: rest)) :
    (standing before piece chain groups).run text =
      (standing before (piece ++ [c]) chain groups).run text := by
  have bytes :
      byteLength (before ++ (piece ++ [c])) = byteLength (before ++ piece) + c.utf8Size := by
    rw [← List.append_assoc, byteLength_append]
    rfl
  have size : byteLength text = byteLength (before ++ piece) + c.utf8Size + byteLength rest := by
    rw [split, byteLength_append, byteLength, Nat.add_assoc]
  -- The induction is on the bytes of the character that are left.
  have walk (left : Nat) (bound : left ≤ c.utf8Size) :
      Scanner.run text { standing before piece chain groups with
          index := byteLength (before ++ piece) + (c.utf8Size - left) } =
        (standing before (piece ++ [c]) chain groups).run text := by
    induction left with
    | zero => rw [standing, standing, Nat.sub_zero, bytes]
    | succ left ih =>
        have inside : c.utf8Size - (left + 1) < c.utf8Size := by omega
        have next : c.utf8Size - (left + 1) + 1 = c.utf8Size - left := by omega
        rw [run_of_round (by simp only [size]; omega), round_of_uncut split uncut inside rfl,
          ← ih (by omega), ← next]
        rfl
  have whole := walk c.utf8Size (Nat.le_refl _)
  rwa [Nat.sub_self] at whole

private theorem push_standing (before piece : List Char) (chain : List Segment)
    (groups : List (List Segment)) (combinator : Combinator) (segment : Segment) :
    (standing before piece chain groups).push combinator segment =
      match combinator with
      | .and => standing (before ++ piece ++ combinator.token) [] (chain ++ [segment]) groups
      | .or =>
          standing (before ++ piece ++ combinator.token) [] []
            (groups ++ [chain ++ [segment]]) := by
  cases combinator <;> simp [Scanner.push, standing, byteLength_token, Nat.add_assoc]

private theorem index_lt_of_token (split : text = before ++ piece ++ (combinator.token ++ rest)) :
    byteLength (before ++ piece) < byteLength text := by
  simp only [split, byteLength_append, byteLength_token]
  omega

private theorem run_of_opensTerm (split : text = before ++ piece ++ (combinator.token ++ rest))
    (opens : opensTerm rest = true) (nonempty : piece ≠ []) :
    (standing before piece chain groups).run text =
      (Scanner.push (standing before piece chain groups) combinator
        { text := beforeCombinator combinator piece, offset := byteLength before }).run text := by
  rw [run_of_round (index_lt_of_token split), round_of_opensTerm split opens,
    segment_standing split, if_neg nonempty]
  rfl

private theorem run_of_end (split : text = before ++ piece) (nonempty : piece ≠ []) :
    (standing before piece chain groups).run text =
      .ok (groups ++ [chain ++ [{ text := piece, offset := byteLength before }]]) := by
  have last := segmentBetween_append before piece []
  rw [List.append_nil, ← split, if_neg nonempty] at last
  rw [Scanner.run, dif_neg (by simp [standing, split])]
  simp only [standing, last, bind, Except.bind]
  rfl

/-- The scan has more to go over, and not a combinator that a segment would have to end at. -/
def Startable (rest : List Char) : Prop :=
  rest ≠ [] ∧ ∀ (combinator : Combinator) after, rest = combinator.token ++ after →
    opensTerm after = false

private theorem startable_of_opensTerm (opens : opensTerm rest = true) : Startable rest := by
  obtain ⟨word, tail, rfl, -, -⟩ := (opensTerm_eq_true_iff rest).mp opens
  exact ⟨by simp, fun combinator after split => by simp [Combinator.token] at split⟩

private theorem completed_cons (before piece : List Char) (chain : List Segment)
    (groups : List (List Segment)) (c : Char) (result : Except Nat Cuts) :
    completed before piece chain groups (cuts.shifted c.utf8Size (result.map (Cuts.cons c))) =
      completed before (piece ++ [c]) chain groups result := by
  cases result with
  | error offset =>
      simp [completed, cuts.shifted, Except.map, byteLength, Nat.add_assoc]
  | ok pieces => simp [completed, cuts.shifted, Except.map, Cuts.cons]

private theorem completed_cut (before piece : List Char) (chain : List Segment)
    (groups : List (List Segment)) (combinator : Combinator) (result : Except Nat Cuts) :
    let segment : Segment :=
      { text := beforeCombinator combinator piece, offset := byteLength before }
    let front := before ++ piece ++ combinator.token
    completed before piece chain groups
        (cuts.shifted 4 (result.map (Cuts.cut combinator))) =
      match combinator with
      | .and => completed front [] (chain ++ [segment]) groups result
      | .or => completed front [] [] (groups ++ [chain ++ [segment]]) result := by
  cases result with
  | error offset =>
      cases combinator <;>
        simp [completed, cuts.shifted, Except.map, byteLength_token, Nat.add_assoc]
  | ok pieces =>
      have place : byteLength before + byteLength (piece ++ combinator.token) =
          byteLength (before ++ piece ++ combinator.token) := by
        simp
      cases combinator <;>
        simp only [completed, cuts.shifted, Except.map, Cuts.cut, chainsFrom, List.append_nil,
          List.nil_append, List.append_assoc, List.singleton_append, place]

/-- A run gives the chains that the text is cut into. -/
theorem run_eq (split : text = before ++ piece ++ rest) (startable : piece = [] → Startable rest) :
    (standing before piece chain groups).run text =
      completed before piece chain groups (cuts rest) := by
  -- A combinator is left behind at once, so the induction is on the length.
  induction length : rest.length using Nat.strong_induction_on
    generalizing before piece rest chain groups with
  | _ count ih =>
      subst length
      by_cases uncut : Uncut rest
      · cases rest with
        | nil =>
            have nonempty : piece ≠ [] := fun empty => (startable empty).1 rfl
            rw [List.append_nil] at split
            rw [run_of_end split nonempty]
            simp [completed, cuts, chainsFrom]
        | cons c rest =>
            have next : (standing before (piece ++ [c]) chain groups).run text =
                completed before (piece ++ [c]) chain groups (cuts rest) :=
              ih rest.length (Nat.lt_succ_self _) (by simp [split]) (by simp) rfl
            rw [run_of_uncut split uncut, next, cuts_cons uncut, completed_cons]
      · obtain ⟨combinator, after, rfl, hangs | opens⟩ := exists_of_not_uncut uncut
        · rw [run_of_round (index_lt_of_token split), round_of_dangling split hangs,
            cuts_of_dangling _ hangs]
          rfl
        · have nonempty : piece ≠ [] := by
            intro empty
            have closed := (startable empty).2 combinator after rfl
            rw [opens] at closed
            contradiction
          have next (chain : List Segment) (groups : List (List Segment)) :
              (standing (before ++ piece ++ combinator.token) [] chain groups).run text =
                completed (before ++ piece ++ combinator.token) [] chain groups (cuts after) :=
            ih after.length (by simp [Combinator.token]; omega) (by simp [split])
              (fun _ => startable_of_opensTerm opens) rfl
          rw [run_of_opensTerm split opens nonempty, push_standing, cuts_token combinator opens,
            completed_cut]
          cases combinator with
          | and => exact next _ _
          | or => exact next _ _

/-! ## Rules -/

private theorem run_of_dangling_start (split : text = combinator.token ++ rest)
    (opens : opensTerm rest = true) :
    (standing [] [] [] []).run text = .error (.refused (.danglingCombinator 0)) := by
  have whole : text = [] ++ [] ++ (combinator.token ++ rest) := split
  rw [run_of_round (index_lt_of_token whole), round_of_opensTerm whole opens,
    segment_standing whole]
  rfl

theorem splitGroups_eq (text : List Char) : splitGroups text = lift (segments text) := by
  unfold splitGroups segments
  by_cases blank : (Text.trim text).isEmpty = true
  · rw [if_pos blank, if_pos blank]
    rfl
  rw [if_neg blank, if_neg blank]
  by_cases marked : startsWithMark text = true
  · rw [if_pos marked, if_pos ((startsDangling_iff _).mpr (.inl marked))]
    rfl
  rw [if_neg marked]
  by_cases dangling : startsDangling text = true
  · obtain ⟨combinator, after, split, opens⟩ :=
      ((startsDangling_iff _).mp dangling).resolve_left marked
    rw [if_pos dangling]
    exact run_of_dangling_start split opens
  rw [if_neg dangling]
  have startable : Startable text := by
    refine ⟨?_, fun combinator after split => ?_⟩
    · rintro rfl
      exact blank rfl
    · by_contra opens
      rw [Bool.not_eq_false] at opens
      exact dangling ((startsDangling_iff _).mpr (.inr ⟨combinator, after, split, opens⟩))
  have ran : (standing [] [] [] []).run text = completed [] [] [] [] (cuts text) :=
    run_eq rfl fun _ => startable
  refine Eq.trans ran ?_
  cases cuts text with
  | error offset => simp [completed, lift, Except.mapError, byteLength]
  | ok pieces => simp [completed, lift, Except.mapError, byteLength, Cuts.chains]

private theorem mapM_lift {α β ε : Type} {scan : α → Except (Stop ε) β} {read : α → Except ε β}
    (same : ∀ x, scan x = lift (read x)) (xs : List α) : xs.mapM scan = lift (xs.mapM read) := by
  induction xs with
  | nil => rfl
  | cons x xs ih =>
      rw [List.mapM_cons, List.mapM_cons, same, ih]
      cases read x with
      | error cause => rfl
      | ok y => cases xs.mapM read <;> rfl

theorem chainOf_eq (segments : List Segment) : chainOf segments = lift (Rule.chainOf segments) := by
  rw [chainOf, Rule.chainOf, mapM_lift fun segment : Segment => termOf_eq segment.text]
  cases segments.mapM fun segment => Rule.termOf segment.text <;> rfl

/-- Whatever a text is, its rule is read or refused as it is on characters. -/
theorem parse_eq (text : String) : parse text = lift (Rule.parse text) := by
  unfold parse Rule.parse ofText
  rw [splitGroups_eq]
  cases segments text.toList with
  | error cause => rfl
  | ok chains =>
      refine (congrArg (Except.map Rule.mk) (mapM_lift chainOf_eq chains)).trans ?_
      simp only [bind, Except.bind]
      cases chains.mapM Rule.chainOf <;> rfl

end

end Gleaner.Rule.Scan
