import Gleaner.Rule.Segment
import Mathlib.Data.List.Infix
import Mathlib.Data.List.TakeWhile

/-!
# Cutting a text at its combinators

A text is cut into pieces exactly when it consists of these pieces with their combinators
between them, every piece after the first opens a term, and no piece holds a combinator that a
mark or the opening of a term follows, or ends in what would make one with the text behind it.
-/

namespace Gleaner.Rule

/-- The text that pieces and the combinators between them make up. -/
def joined (first : List Char) : List (Combinator × List Char) → List Char
  | [] => first
  | (combinator, next) :: more => first ++ combinator.token ++ joined next more

/-- No combinator in the text is followed by a mark or the opening of a term. -/
def Unbroken (text : List Char) : Prop :=
  ∀ before (combinator : Combinator) after, text = before ++ combinator.token ++ after →
    startsWithMark after = false ∧ opensTerm after = false

/-- The text does not start with a combinator that dangles or that it is cut at. -/
def Uncut (text : List Char) : Prop :=
  ∀ (combinator : Combinator) after, text = combinator.token ++ after →
    isDangling after = false ∧ opensTerm after = false

/-- What a piece must not end in: in front of a combinator a space and a mark, at the end of the
whole text a combinator. -/
def Combinator.remnant (combinator : Combinator) (followed : Bool) : List Char :=
  if followed then ' ' :: combinator.mark else combinator.token

/-- The text can be a piece, `followed` by a combinator or at the end of the whole text. -/
structure Whole (followed : Bool) (text : List Char) : Prop where
  /-- Nothing in the text is cut. -/
  unbroken : Unbroken text
  /-- Nothing is cut, and nothing dangles, at the end of the text. -/
  closed : ∀ combinator : Combinator, ¬combinator.remnant followed <:+ text

/-- The pieces are whole, and those after the first open terms. -/
def WellCut (first : List Char) : List (Combinator × List Char) → Prop
  | [] => Whole false first
  | (_, next) :: more => Whole true first ∧ opensTerm next = true ∧ WellCut next more

/-! ## What follows a combinator -/

/-- A word without a character lies wholly before or behind that character. -/
theorem eq_append_of_append_cons {α : Type} {left word right after : List α} {x : α}
    (absent : x ∉ word) (same : left ++ x :: right = word ++ after) :
    ∃ middle, left = word ++ middle ∧ after = middle ++ x :: right := by
  obtain ⟨middle, rfl, split⟩ | ⟨middle, rfl, rfl⟩ := List.append_eq_append_iff.mp same
  · cases middle with
    | nil => exact ⟨[], by simp, by simpa using split.symm⟩
    | cons head tail =>
        obtain ⟨rfl, -⟩ := List.cons.inj split
        exact absurd (by simp) absent
  · exact ⟨middle, rfl, rfl⟩

/-- A word that ends a text lies behind every character that it does not hold. -/
theorem suffix_of_suffix_append_cons {α : Type} {left word right : List α} {x : α}
    (absent : x ∉ word) (ends : word <:+ left ++ x :: right) : word <:+ right := by
  obtain ⟨front, same⟩ := ends
  obtain ⟨middle, rfl, split⟩ | ⟨middle, rfl, rfl⟩ := List.append_eq_append_iff.mp same.symm
  · cases middle with
    | nil =>
        rw [List.nil_append] at split
        exact absurd (by simp [← split]) absent
    | cons head tail => exact ⟨tail, (List.cons.inj split).2.symm⟩
  · exact absurd (by simp) absent

theorem startsWithMark_eq_true_iff (text : List Char) :
    startsWithMark text = true ↔ ∃ (combinator : Combinator) (rest : List Char),
      text = combinator.mark ++ rest := by
  constructor
  · intro starts
    fun_cases startsWithMark text with
    | case1 rest => exact ⟨.and, rest, rfl⟩
    | case2 rest => exact ⟨.or, rest, rfl⟩
    | case3 => simp_all [startsWithMark]
  · rintro ⟨_ | _, rest, rfl⟩ <;> rfl

theorem opensTerm_eq_true_iff (text : List Char) :
    opensTerm text = true ↔ ∃ word rest, text = '@' :: word ++ ':' :: rest ∧ word ≠ [] ∧
      ∀ c ∈ word, isTagChar c = true := by
  constructor
  · intro opens
    fun_cases opensTerm text with
    | case1 rest =>
        rw [opensTerm, Bool.and_eq_true, beq_iff_eq] at opens
        obtain ⟨tail, colon⟩ := List.head?_eq_some_iff.mp opens.2
        refine ⟨rest.takeWhile isTagChar, tail, ?_, ?_, fun c member => ?_⟩
        · rw [← colon, List.cons_append, List.takeWhile_append_dropWhile]
        · simpa using opens.1
        · exact List.mem_takeWhile_imp member
    | case2 => simp_all [opensTerm]
  · rintro ⟨word, rest, rfl, nonempty, tags⟩
    have colon : isTagChar ':' = false := by decide
    rw [List.cons_append, opensTerm, List.takeWhile_append_of_pos tags,
      List.dropWhile_append_of_pos tags]
    simp [colon, nonempty]

theorem startsWithMark_append {text : List Char} (starts : startsWithMark text = true)
    (rest : List Char) : startsWithMark (text ++ rest) = true := by
  obtain ⟨combinator, tail, rfl⟩ := (startsWithMark_eq_true_iff text).mp starts
  exact (startsWithMark_eq_true_iff _).mpr ⟨combinator, tail ++ rest, by simp⟩

theorem opensTerm_append {text : List Char} (opens : opensTerm text = true)
    (rest : List Char) : opensTerm (text ++ rest) = true := by
  obtain ⟨word, tail, rfl, nonempty, tags⟩ := (opensTerm_eq_true_iff text).mp opens
  exact (opensTerm_eq_true_iff _).mpr ⟨word, tail ++ rest, by simp, nonempty, tags⟩

/-- The character takes no part in combinators and in the openings of terms, other than as their
first character. -/
structure Inert (c : Char) : Prop where
  notMark : c ≠ '&' ∧ c ≠ '|'
  notColon : c ≠ ':'
  notTag : isTagChar c = false

theorem inert_space : Inert ' ' :=
  ⟨by decide, by decide, by decide⟩

theorem inert_at : Inert '@' :=
  ⟨by decide, by decide, by decide⟩

theorem inert_sign : Inert '#' :=
  ⟨by decide, by decide, by decide⟩

theorem inert_backslash : Inert '\\' :=
  ⟨by decide, by decide, by decide⟩

theorem inert_quote : Inert '\'' :=
  ⟨by decide, by decide, by decide⟩

theorem startsWithMark_of_append_cons {text rest : List Char} {c : Char} (inert : Inert c)
    (starts : startsWithMark (text ++ c :: rest) = true) : startsWithMark text = true := by
  obtain ⟨combinator, tail, split⟩ := (startsWithMark_eq_true_iff _).mp starts
  have absent : c ∉ combinator.mark := by
    cases combinator <;> simp [Combinator.mark, inert.notMark]
  obtain ⟨middle, rfl, -⟩ := eq_append_of_append_cons absent split
  exact (startsWithMark_eq_true_iff _).mpr ⟨combinator, middle, rfl⟩

theorem opensTerm_of_append_cons {text rest : List Char} {c : Char} (inert : Inert c)
    (apart : text = [] → c ≠ '@') (opens : opensTerm (text ++ c :: rest) = true) :
    opensTerm text = true := by
  obtain ⟨word, tail, split, nonempty, tags⟩ := (opensTerm_eq_true_iff _).mp opens
  cases text with
  | nil => exact absurd (List.cons.inj split).1 (apart rfl)
  | cons head text =>
      simp only [List.cons_append, List.cons.injEq] at split
      obtain ⟨rfl, split⟩ := split
      have absent : c ∉ word ++ [':'] := by
        simp only [List.mem_append, List.mem_singleton, not_or]
        refine ⟨fun member => ?_, inert.notColon⟩
        exact absurd (tags c member) (by simp [inert.notTag])
      have behind : text ++ c :: rest = (word ++ [':']) ++ tail := by simpa using split
      obtain ⟨middle, rfl, -⟩ := eq_append_of_append_cons absent behind
      exact (opensTerm_eq_true_iff _).mpr ⟨word, middle, by simp, nonempty, tags⟩

/-! ## Unbroken texts -/

theorem unbroken_nil : Unbroken [] := by
  intro before combinator after split
  cases before <;> simp [Combinator.token] at split

theorem Unbroken.of_infix {text part : List Char} (unbroken : Unbroken text)
    (inside : part <:+: text) : Unbroken part := by
  obtain ⟨front, back, rfl⟩ := inside
  rintro before combinator after rfl
  obtain ⟨noMark, noTerm⟩ := unbroken (front ++ before) combinator (after ++ back) (by simp)
  constructor
  · by_contra starts
    simp [startsWithMark_append (by simpa using starts) back] at noMark
  · by_contra opens
    simp [opensTerm_append (by simpa using opens) back] at noTerm

theorem Unbroken.append_cons {left right : List Char} {c : Char} (leftUnbroken : Unbroken left)
    (rightUnbroken : Unbroken right) (inert : Inert c) (notSpace : c ≠ ' ')
    (apart : c = '@' → ∀ combinator : Combinator, ¬combinator.token <:+ left) :
    Unbroken (left ++ c :: right) := by
  intro before combinator after split
  have absent : c ∉ combinator.token := by
    cases combinator <;> simp [Combinator.token, Combinator.mark, inert.notMark, notSpace]
  rw [List.append_assoc] at split
  obtain ⟨middle, rfl, rest_eq⟩ | ⟨middle, rfl, rest_eq⟩ := List.append_eq_append_iff.mp split
  · cases middle with
    | nil =>
        cases combinator <;> exact absurd (List.cons.inj rest_eq).1 notSpace
    | cons head tail =>
        exact rightUnbroken tail combinator after (by simp [(List.cons.inj rest_eq).2])
  · obtain ⟨tail, rfl, rfl⟩ := eq_append_of_append_cons absent rest_eq.symm
    obtain ⟨noMark, noTerm⟩ := leftUnbroken before combinator tail (by simp)
    constructor
    · by_contra starts
      simp [startsWithMark_of_append_cons inert (by simpa using starts)] at noMark
    · by_contra opens
      have closed : tail = [] → c ≠ '@' := by
        rintro rfl rfl
        exact apart rfl combinator ⟨before, by simp⟩
      simp [opensTerm_of_append_cons inert closed (by simpa using opens)] at noTerm

/-- Characters that no combinator and no opening holds make independent parts. -/
theorem unbroken_append_cons_iff {left right : List Char} {c : Char} (inert : Inert c)
    (notSpace : c ≠ ' ') (notAt : c ≠ '@') :
    Unbroken (left ++ c :: right) ↔ Unbroken left ∧ Unbroken right := by
  constructor
  · intro unbroken
    exact ⟨unbroken.of_infix (List.prefix_append _ _).isInfix,
      unbroken.of_infix ⟨left ++ [c], [], by simp⟩⟩
  · rintro ⟨leftUnbroken, rightUnbroken⟩
    exact leftUnbroken.append_cons rightUnbroken inert notSpace (fun sign => absurd sign notAt)

/-- A text without spaces in front changes nothing. -/
theorem unbroken_append_iff {front text : List Char} (spaceless : ' ' ∉ front) :
    Unbroken (front ++ text) ↔ Unbroken text := by
  refine ⟨fun unbroken => unbroken.of_infix (List.suffix_append _ _).isInfix, ?_⟩
  intro unbroken before combinator after split
  rw [Combinator.token, List.append_assoc] at split
  obtain ⟨middle, -, rfl⟩ := eq_append_of_append_cons spaceless split.symm
  exact unbroken middle combinator after (by simp [Combinator.token])

/-! ## One step of the cutting -/

theorem isDangling_of_opensTerm {text : List Char} (opens : opensTerm text = true) :
    isDangling text = false := by
  obtain ⟨word, rest, rfl, -, -⟩ := (opensTerm_eq_true_iff text).mp opens
  rfl

theorem exists_of_not_uncut {rest : List Char} (cut : ¬Uncut rest) :
    ∃ (combinator : Combinator) (after : List Char), rest = combinator.token ++ after ∧
      (isDangling after = true ∨ opensTerm after = true) := by
  by_contra none
  refine cut fun combinator after split => ?_
  have neither := fun other => none ⟨combinator, after, split, other⟩
  exact ⟨by simpa using fun hangs => neither (.inl hangs),
    by simpa using fun opens => neither (.inr opens)⟩

theorem uncut_cons_of_ne {c : Char} (notSpace : c ≠ ' ') (rest : List Char) : Uncut (c :: rest) :=
  fun _ _ split => absurd (List.cons.inj split).1 notSpace

theorem uncut_cons_of_neither {c : Char} {rest : List Char}
    (notAnd : ∀ after, c = ' ' → rest = '&' :: '&' :: ' ' :: after → False)
    (notOr : ∀ after, c = ' ' → rest = '|' :: '|' :: ' ' :: after → False) :
    Uncut (c :: rest) := by
  intro combinator after same
  obtain ⟨first, behind⟩ := List.cons.inj same
  cases combinator with
  | and => exact (notAnd after first behind).elim
  | or => exact (notOr after first behind).elim

private theorem shifted_map_eq_ok_iff {bytes : Nat} {result : Except Nat Cuts} {f : Cuts → Cuts}
    {cut : Cuts} :
    cuts.shifted bytes (result.map f) = .ok cut ↔ ∃ inner, result = .ok inner ∧ f inner = cut := by
  cases result <;> simp [cuts.shifted, Except.map]

theorem cuts_of_dangling (combinator : Combinator) {rest : List Char}
    (hangs : isDangling rest = true) :
    cuts (combinator.token ++ rest) = .error 1 := by
  cases combinator <;> simp [Combinator.token, Combinator.mark, cuts, hangs]

theorem cuts_token (combinator : Combinator) {rest : List Char} (opens : opensTerm rest = true) :
    cuts (combinator.token ++ rest) =
      cuts.shifted 4 ((cuts rest).map (Cuts.cut combinator)) := by
  have hangs := isDangling_of_opensTerm opens
  cases combinator <;>
    simp [Combinator.token, Combinator.mark, cuts, hangs, opens]

theorem cuts_cons {c : Char} {rest : List Char} (uncut : Uncut (c :: rest)) :
    cuts (c :: rest) = cuts.shifted c.utf8Size ((cuts rest).map (Cuts.cons c)) := by
  rw [cuts.eq_def]
  split
  · contradiction
  · next after split =>
      obtain ⟨rfl, rfl⟩ := List.cons.inj split
      obtain ⟨stands, closed⟩ := uncut .and after rfl
      rw [if_neg (by simp [stands]), if_neg (by simp [closed])]
      rfl
  · next after split =>
      obtain ⟨rfl, rfl⟩ := List.cons.inj split
      obtain ⟨stands, closed⟩ := uncut .or after rfl
      rw [if_neg (by simp [stands]), if_neg (by simp [closed])]
      rfl
  · next head tail _ _ split =>
      obtain ⟨rfl, rfl⟩ := List.cons.inj split
      rfl

/-! ## Whole pieces -/

theorem Whole.of_suffix {followed : Bool} {text part : List Char} (whole : Whole followed text)
    (ends : part <:+ text) : Whole followed part where
  unbroken := whole.unbroken.of_infix ends.isInfix
  closed combinator := fun remnant => whole.closed combinator (remnant.trans ends)

theorem Whole.uncut {text : List Char} (whole : Whole false text) : Uncut text := by
  rintro combinator after rfl
  obtain ⟨noMark, noTerm⟩ := whole.unbroken [] combinator after rfl
  refine ⟨?_, noTerm⟩
  cases after with
  | nil => exact absurd (by simp [Combinator.remnant]) (whole.closed combinator)
  | cons head tail => simp [isDangling, noMark]

private theorem space_notMem_mark (combinator : Combinator) : ' ' ∉ combinator.mark := by
  cases combinator <;> decide

/-- A space of a combinator is its first or its last character. -/
theorem eq_token_or_eq_nil_of_suffix {combinator : Combinator} {back : List Char}
    (ends : ' ' :: back <:+ combinator.token) : ' ' :: back = combinator.token ∨ back = [] := by
  rcases List.suffix_cons_iff.mp ends with same | ⟨front, split⟩
  · exact .inl same
  · right
    obtain ⟨middle, -, last⟩ := eq_append_of_append_cons (space_notMem_mark combinator) split
    obtain ⟨-, same⟩ | ⟨-, same⟩ := List.singleton_eq_append_iff.mp last
    · exact (List.cons.inj same).2
    · contradiction

/-- What comes behind a space has no bearing on how the text in front of it starts. -/
theorem uncut_append_space {text : List Char} (nonempty : text ≠ [])
    (bare : ∀ (combinator : Combinator) after, text = combinator.token ++ after →
      startsWithMark after = false ∧ opensTerm after = false)
    (closed : ∀ combinator : Combinator, ¬(' ' :: combinator.mark) <:+ text) (rest : List Char) :
    Uncut (text ++ ' ' :: rest) := by
  intro combinator after split
  obtain ⟨middle, token_eq, rest_eq⟩ | ⟨middle, text_eq, rfl⟩ :=
    List.append_eq_append_iff.mp split
  · obtain ⟨c, first, rfl⟩ := List.exists_cons_of_ne_nil nonempty
    cases middle with
    | nil => simp [← show ' ' :: rest = after from rest_eq, isDangling, startsWithMark, opensTerm]
    | cons head tail =>
        obtain ⟨rfl, -⟩ := List.cons.inj rest_eq
        obtain ⟨rfl, mark_eq⟩ := List.cons.inj token_eq
        obtain ⟨middle, rfl, last_eq⟩ :=
          eq_append_of_append_cons (space_notMem_mark combinator) mark_eq.symm
        have empty : middle = [] := by
          have lengths := congrArg List.length last_eq
          simp only [List.length_append, List.length_cons, List.length_nil] at lengths
          exact List.eq_nil_of_length_eq_zero (by omega)
        subst empty
        exact absurd (by simp) (closed combinator)
  · obtain ⟨noMark, noTerm⟩ := bare combinator middle text_eq
    constructor
    · have marks : isDangling (middle ++ ' ' :: rest) = startsWithMark (middle ++ ' ' :: rest) := by
        cases middle <;> rfl
      by_contra hangs
      rw [marks, Bool.not_eq_false] at hangs
      simp [startsWithMark_of_append_cons inert_space hangs] at noMark
    · by_contra opens
      simp [opensTerm_of_append_cons inert_space (by simp) (by simpa using opens)] at noTerm

theorem Whole.uncut_append {c : Char} {first : List Char} (whole : Whole true (c :: first))
    (rest : List Char) : Uncut (c :: first ++ ' ' :: rest) :=
  uncut_append_space (by simp) (fun combinator after => whole.unbroken [] combinator after)
    (by simpa [Combinator.remnant] using whole.closed) rest

theorem Whole.cons {c : Char} {first : List Char} (whole : Whole false first)
    (uncut : Uncut (c :: first)) : Whole false (c :: first) where
  unbroken before combinator after split := by
    cases before with
    | nil =>
        obtain ⟨stands, noTerm⟩ := uncut combinator after split
        simp only [isDangling, Bool.or_eq_false_iff] at stands
        exact ⟨stands.2, noTerm⟩
    | cons head tail =>
        exact whole.unbroken tail combinator after (List.cons.inj split).2
  closed combinator ends := by
    rcases List.suffix_cons_iff.mp ends with same | ends
    · exact absurd (uncut combinator [] (by simpa [Combinator.remnant] using same.symm)).1
        (by decide)
    · exact whole.closed combinator ends

theorem Whole.cons_append {c : Char} {first rest : List Char} {between : Combinator}
    (whole : Whole true first) (uncut : Uncut (c :: first ++ between.token ++ rest)) :
    Whole true (c :: first) where
  unbroken before combinator after split := by
    cases before with
    | nil =>
        obtain ⟨stands, noTerm⟩ :=
          uncut combinator (after ++ between.token ++ rest) (by simp [split])
        simp only [isDangling, Bool.or_eq_false_iff] at stands
        constructor
        · by_contra starts
          simp [startsWithMark_append (by simpa using starts) (between.token ++ rest)] at stands
        · by_contra opens
          simp [opensTerm_append (by simpa using opens) (between.token ++ rest)] at noTerm
    | cons head tail =>
        exact whole.unbroken tail combinator after (List.cons.inj split).2
  closed combinator ends := by
    rcases List.suffix_cons_iff.mp ends with same | ends
    · have hangs := (uncut combinator (between.mark ++ ' ' :: rest) (by
        rw [← same]
        simp [Combinator.remnant, Combinator.token])).1
      cases between <;> exact absurd hangs (by simp [Combinator.mark, isDangling, startsWithMark])
    · exact whole.closed combinator ends

/-! ## Pieces -/

theorem joined_cons (c : Char) (first : List Char) (more : List (Combinator × List Char)) :
    joined (c :: first) more = c :: joined first more := by
  cases more <;> simp [joined]

theorem opensTerm_joined {first : List Char} (opens : opensTerm first = true)
    (more : List (Combinator × List Char)) : opensTerm (joined first more) = true := by
  cases more with
  | nil => exact opens
  | cons entry more =>
      rw [joined, List.append_assoc]
      exact opensTerm_append opens _

theorem WellCut.tail {c : Char} {first : List Char} {more : List (Combinator × List Char)}
    (well : WellCut (c :: first) more) : WellCut first more := by
  cases more with
  | nil => exact Whole.of_suffix well (List.suffix_cons c first)
  | cons entry more =>
      obtain ⟨whole, opens, rest⟩ := well
      exact ⟨whole.of_suffix (List.suffix_cons c first), opens, rest⟩

theorem WellCut.uncut {c : Char} {first : List Char} {more : List (Combinator × List Char)}
    (well : WellCut (c :: first) more) : Uncut (c :: joined first more) := by
  rw [← joined_cons]
  cases more with
  | nil => exact Whole.uncut well
  | cons entry more =>
      have starts := Whole.uncut_append well.1 (entry.1.mark ++ ' ' :: joined entry.2 more)
      simpa [joined, Combinator.token] using starts

theorem WellCut.cons {c : Char} {first : List Char} {more : List (Combinator × List Char)}
    (well : WellCut first more) (uncut : Uncut (c :: joined first more)) :
    WellCut (c :: first) more := by
  rw [← joined_cons] at uncut
  cases more with
  | nil => exact Whole.cons well uncut
  | cons entry more =>
      obtain ⟨whole, opens, rest⟩ := well
      exact ⟨whole.cons_append uncut, opens, rest⟩

theorem wellCut_nil : WellCut [] [] where
  unbroken := unbroken_nil
  closed combinator := by cases combinator <;> simp [Combinator.remnant, Combinator.token]

theorem whole_nil : Whole true [] where
  unbroken := unbroken_nil
  closed combinator := by simp [Combinator.remnant]

/-- Well cut pieces are found again. -/
theorem cuts_joined {first : List Char} {more : List (Combinator × List Char)}
    (well : WellCut first more) : cuts (joined first more) = .ok { first, more } := by
  -- The outer induction is on the pieces that are left, the inner one on the first of them.
  induction more generalizing first with
  | nil =>
      induction first with
      | nil => rfl
      | cons c first ih =>
          rw [joined_cons, cuts_cons well.uncut, ih well.tail]
          rfl
  | cons entry more rest_ih =>
      obtain ⟨combinator, next⟩ := entry
      induction first with
      | nil =>
          obtain ⟨-, opens, rest⟩ := well
          rw [joined, List.nil_append, cuts_token combinator (opensTerm_joined opens more),
            rest_ih rest]
          rfl
      | cons c first ih =>
          rw [joined_cons, cuts_cons well.uncut, ih well.tail]
          rfl

theorem uncut_token (combinator : Combinator) {rest : List Char}
    (stands : ¬isDangling rest = true) (closed : ¬opensTerm rest = true) :
    Uncut (combinator.token ++ rest) := by
  intro other after split
  have same : rest = after := by
    cases combinator <;> cases other <;>
      simp [Combinator.token, Combinator.mark] at split <;> exact split
  subst same
  exact ⟨by simpa using stands, by simpa using closed⟩

private theorem opensTerm_of_joined {first : List Char} {more : List (Combinator × List Char)}
    (opens : opensTerm (joined first more) = true) : opensTerm first = true := by
  cases more with
  | nil => exact opens
  | cons entry more =>
      rw [joined, Combinator.token, List.append_assoc] at opens
      exact opensTerm_of_append_cons inert_space (by simp) opens

/-- The pieces make up the text and are well cut. -/
def Cuts.Of (text : List Char) (pieces : Cuts) : Prop :=
  joined pieces.first pieces.more = text ∧ WellCut pieces.first pieces.more

theorem Cuts.Of.cut {rest : List Char} {pieces : Cuts} (inner : Cuts.Of rest pieces)
    (combinator : Combinator) (opens : opensTerm rest = true) :
    Cuts.Of (combinator.token ++ rest) (pieces.cut combinator) := by
  obtain ⟨rfl, well⟩ := inner
  exact ⟨by simp [joined, Cuts.cut], whole_nil, opensTerm_of_joined opens, well⟩

theorem Cuts.Of.cons {c : Char} {rest : List Char} {pieces : Cuts} (inner : Cuts.Of rest pieces)
    (uncut : Uncut (c :: rest)) : Cuts.Of (c :: rest) (pieces.cons c) := by
  obtain ⟨rfl, well⟩ := inner
  exact ⟨joined_cons c pieces.first pieces.more, well.cons uncut⟩

/-- The pieces of a text are well cut and make it up. -/
theorem of_cuts {text : List Char} {pieces : Cuts} (found : cuts text = .ok pieces) :
    pieces.Of text := by
  fun_induction cuts text generalizing pieces with
  | case1 =>
      cases found
      exact ⟨rfl, wellCut_nil⟩
  | case2 => cases found
  | case3 rest _ opens ih =>
      obtain ⟨inner, split, rfl⟩ := shifted_map_eq_ok_iff.mp found
      exact (ih split).cut .and opens
  | case4 rest stands closed ih =>
      obtain ⟨inner, split, rfl⟩ := shifted_map_eq_ok_iff.mp found
      exact (ih split).cons (uncut_token .and stands closed)
  | case5 => cases found
  | case6 rest _ opens ih =>
      obtain ⟨inner, split, rfl⟩ := shifted_map_eq_ok_iff.mp found
      exact (ih split).cut .or opens
  | case7 rest stands closed ih =>
      obtain ⟨inner, split, rfl⟩ := shifted_map_eq_ok_iff.mp found
      exact (ih split).cons (uncut_token .or stands closed)
  | case8 c rest notAnd notOr ih =>
      obtain ⟨inner, split, rfl⟩ := shifted_map_eq_ok_iff.mp found
      exact (ih split).cons (uncut_cons_of_neither notAnd notOr)

theorem cuts_eq_ok_iff (text : List Char) (pieces : Cuts) :
    cuts text = .ok pieces ↔ pieces.Of text := by
  constructor
  · exact of_cuts
  · rintro ⟨rfl, well⟩
    exact cuts_joined well

/-- A rule starts with a dangling combinator when a mark starts it, or a combinator that a term
follows. -/
theorem startsDangling_iff (text : List Char) :
    startsDangling text = true ↔ startsWithMark text = true ∨
      ∃ (combinator : Combinator) (after : List Char), text = combinator.token ++ after ∧
        opensTerm after = true := by
  unfold startsDangling
  rw [Bool.or_eq_true]
  refine or_congr_right ⟨fun starts => ?_, ?_⟩
  · split at starts
    · next tail =>
        rw [Bool.and_eq_true, Bool.and_eq_true] at starts
        obtain ⟨⟨marked, spaced⟩, opens⟩ := starts
        obtain ⟨combinator, after, rfl⟩ := (startsWithMark_eq_true_iff tail).mp marked
        cases after with
        | nil => cases combinator <;> simp [Combinator.mark] at spaced
        | cons c after =>
            refine ⟨combinator, after, ?_, ?_⟩
            · cases combinator <;> simpa [Combinator.token, Combinator.mark] using spaced
            · cases combinator <;> exact opens
    · contradiction
  · rintro ⟨combinator, after, rfl, opens⟩
    cases combinator <;> exact opens

/-- A text is cut into segments when it is neither blank nor starts with a combinator, and its
pieces are well cut. -/
theorem segments_eq_ok_iff (text : List Char) (chains : List (List Segment)) :
    segments text = .ok chains ↔ Text.trim text ≠ [] ∧ startsDangling text = false ∧
      ∃ pieces : Cuts, pieces.Of text ∧ pieces.chains = chains := by
  simp only [← cuts_eq_ok_iff]
  unfold segments
  by_cases blank : Text.trim text = []
  · simp [blank]
  by_cases dangling : startsDangling text = true
  · simp [blank, dangling]
  cases cuts text <;> simp [blank, dangling]

end Gleaner.Rule
