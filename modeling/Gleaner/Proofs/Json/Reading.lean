import Gleaner.Json.Parser
import Gleaner.Proofs.Text.Blank

/-!
# Reading JSON

What a reader leaves is the end of the text that it was given, so twice as much fuel as the text has
characters is always enough.  The space in front of a value makes no difference, and no other blank
may stand there.
-/

namespace Gleaner.Json

/-! ## What is left -/

/-- If the reading succeeds, what it leaves is the end of the text. -/
def Leaves {α : Type} (text : List Char) (reading : Except SyntaxError (α × List Char)) : Prop :=
  ∀ value rest, reading = .ok (value, rest) → rest <:+ text

section

variable {α β : Type} {text part rest : List Char}

theorem leaves_error (error : SyntaxError) :
    Leaves text (.error error : Except SyntaxError (α × List Char)) :=
  nofun

theorem leaves_ok (value : α) (ends : rest <:+ text) : Leaves text (.ok (value, rest)) := by
  rintro _ _ ⟨⟩
  exact ends

theorem Leaves.of_suffix {reading : Except SyntaxError (α × List Char)}
    (leaves : Leaves part reading) (ends : part <:+ text) : Leaves text reading :=
  fun value rest read => (leaves value rest read).trans ends

theorem Leaves.map {reading : Except SyntaxError (α × List Char)} (leaves : Leaves text reading)
    (f : α → β) : Leaves text (reading.map fun (value, rest) => (f value, rest)) := by
  intro value rest read
  cases reading with
  | error error => cases read
  | ok pair =>
      cases read
      exact leaves pair.1 pair.2 rfl

theorem Leaves.bind {reading : Except SyntaxError (α × List Char)}
    {next : α × List Char → Except SyntaxError (β × List Char)} (leaves : Leaves text reading)
    (behind : ∀ value rest, rest <:+ text → Leaves text (next (value, rest))) :
    Leaves text (reading >>= next) := by
  cases reading with
  | error error => exact leaves_error error
  | ok pair => exact behind pair.1 pair.2 (leaves pair.1 pair.2 rfl)

private theorem skipSpace_suffix (text : List Char) : skipSpace text <:+ text :=
  List.dropWhile_suffix _

private theorem suffix_of_skipSpace {c : Char} (skipped : skipSpace text = c :: rest) :
    rest <:+ text :=
  (List.suffix_cons c rest).trans (skipped ▸ skipSpace_suffix text)

private theorem suffix_of_takeDigits {digits : List Char}
    (taken : Literal.takeDigits text = (digits, rest)) : rest <:+ text := by
  cases taken
  exact List.dropWhile_suffix _

private theorem suffix_of_takeExponent? {negative : Bool} {digits : List Char}
    (taken : Literal.takeExponent? text = some (negative, digits, rest)) : rest <:+ text := by
  unfold Literal.takeExponent? at taken
  split at taken
  next signed unsigned sign =>
    have ends : unsigned <:+ text := by
      split at sign <;> cases sign
      · exact List.suffix_cons _ _
      · exact List.suffix_cons _ _
      · exact List.suffix_rfl
    split at taken
    · contradiction
    · next found =>
        cases taken
        exact (suffix_of_takeDigits found).trans ends

/-! ## Strings, numbers and words -/

theorem Leaves.push {reading : Except SyntaxError (List Char × List Char)}
    (leaves : Leaves part reading) (c : Char) (ends : part <:+ text) :
    Leaves text (readString.push c reading) :=
  (leaves.map (c :: ·)).of_suffix ends

private theorem leaves_readString (text : List Char) : Leaves text (readString text) := by
  fun_induction readString text with
  | case2 rest => exact leaves_ok [] (List.suffix_cons _ rest)
  | case6 a b c d e f g h rest =>
      have ends := List.suffix_append ['\\', 'u', a, b, c, d, '\\', 'u', e, f, g, h] rest
      next ih => exact ih.push _ ends
  | case8 a b c d => next ih => exact ih.push _ (List.suffix_append ['\\', 'u', a, b, c, d] _)
  | case11 a b c d => next ih => exact ih.push _ (List.suffix_append ['\\', 'u', a, b, c, d] _)
  | case13 c => next ih => exact ih.push _ (List.suffix_append ['\\', c] _)
  | case15 => next ih => exact ih.push _ (List.suffix_cons _ _)
  | _ => exact leaves_error _

private theorem leaves_readFraction (text : List Char) : Leaves text (readFraction text) := by
  fun_cases readFraction text with
  | case1 rest _ => exact leaves_error _
  | case2 behind digits rest _ taken =>
      exact leaves_ok _ ((suffix_of_takeDigits taken).trans (List.suffix_cons _ _))
  | case3 => exact leaves_ok none List.suffix_rfl

private theorem leaves_readExponent (text : List Char) : Leaves text (readExponent text) := by
  fun_cases readExponent text with
  | case1 => exact leaves_ok none List.suffix_rfl
  | case2 c behind _ negative digits rest taken =>
      exact leaves_ok _ ((suffix_of_takeExponent? taken).trans (List.suffix_cons c behind))
  | case3 => exact leaves_error _
  | case4 => exact leaves_ok none List.suffix_rfl

private theorem leaves_readNumber (text : List Char) : Leaves text (readNumber text) := by
  unfold readNumber
  split
  next negative unsigned sign =>
    have ends : unsigned <:+ text := by
      split at sign <;> cases sign
      · exact List.suffix_cons _ _
      · exact List.suffix_rfl
    split
    next whole rest taken =>
      have left := (suffix_of_takeDigits taken).trans ends
      split
      · exact leaves_error _
      · exact leaves_error _
      · refine ((leaves_readFraction rest).of_suffix left).bind fun fraction rest left => ?_
        refine ((leaves_readExponent rest).of_suffix left).bind fun exponent rest left => ?_
        dsimp only
        split
        · exact leaves_ok _ left
        · exact leaves_error _

private theorem leaves_readWord (word : List Char) (value : Json) (text : List Char) :
    Leaves text (readWord word value text) := by
  unfold readWord
  split
  · exact leaves_ok value (List.drop_suffix _ _)
  · exact leaves_error _

private theorem leaves_readName (text : List Char) : Leaves text (readMembers.readName text) := by
  unfold readMembers.readName
  split
  · next rest =>
      have inside := (leaves_readString rest).of_suffix (List.suffix_cons '"' rest)
      refine inside.bind fun name rest left => ?_
      dsimp only
      split
      · next found => exact leaves_ok _ ((suffix_of_skipSpace found).trans left)
      · exact leaves_error _
      · exact leaves_error _
  · exact leaves_error _
  · exact leaves_error _

/-! ## Values -/

/-- With this much fuel, values and the rests of containers are read from the start of a text. -/
structure Consuming (fuel : Nat) : Prop where
  value : ∀ depth text, Leaves text (readValue fuel depth text)
  items : ∀ depth text, Leaves text (readItems fuel depth text)
  members : ∀ depth text, Leaves text (readMembers fuel depth text)

private theorem Consuming.leaves_value {fuel : Nat} (inner : Consuming fuel) (depth : Nat)
    (text : List Char) : Leaves text (readValue (fuel + 1) depth text) := by
  rw [readValue]
  split
  · exact leaves_error _
  · next rest found =>
      exact ((leaves_readString rest).map fun text => string (String.ofList text)).of_suffix
        (suffix_of_skipSpace found)
  · next rest found =>
      have opened := suffix_of_skipSpace found
      split
      · exact leaves_error _
      · split
        · next closed => exact leaves_ok _ ((suffix_of_skipSpace closed).trans opened)
        · exact ((inner.items _ _).map array).of_suffix ((skipSpace_suffix rest).trans opened)
  · next rest found =>
      have opened := suffix_of_skipSpace found
      split
      · exact leaves_error _
      · split
        · next closed => exact leaves_ok _ ((suffix_of_skipSpace closed).trans opened)
        · exact ((inner.members _ _).map object).of_suffix ((skipSpace_suffix rest).trans opened)
  · next c rest _ _ _ found =>
      have ends : c :: rest <:+ text := found ▸ skipSpace_suffix text
      split_ifs
      · exact (leaves_readNumber _).of_suffix ends
      · exact (leaves_readWord _ _ _).of_suffix ends
      · exact (leaves_readWord _ _ _).of_suffix ends
      · exact (leaves_readWord _ _ _).of_suffix ends
      · exact leaves_error _

private theorem Consuming.leaves_items {fuel : Nat} (inner : Consuming fuel) (depth : Nat)
    (text : List Char) : Leaves text (readItems (fuel + 1) depth text) := by
  rw [readItems]
  refine (inner.value depth text).bind fun item rest left => ?_
  dsimp only
  split
  · next more found =>
      have behind := (suffix_of_skipSpace found).trans left
      exact ((inner.items depth more).of_suffix behind).bind fun items rest left => leaves_ok _ left
  · next found => exact leaves_ok _ ((suffix_of_skipSpace found).trans left)
  · exact leaves_error _
  · exact leaves_error _

private theorem Consuming.leaves_members {fuel : Nat} (inner : Consuming fuel) (depth : Nat)
    (text : List Char) : Leaves text (readMembers (fuel + 1) depth text) := by
  rw [readMembers]
  have named := (leaves_readName (skipSpace text)).of_suffix (skipSpace_suffix text)
  refine named.bind fun name rest left => ?_
  refine ((inner.value depth rest).of_suffix left).bind fun value rest left => ?_
  dsimp only
  split
  · next more found =>
      have behind := (suffix_of_skipSpace found).trans left
      exact ((inner.members depth more).of_suffix behind).bind
        fun members rest left => leaves_ok _ left
  · next found => exact leaves_ok _ ((suffix_of_skipSpace found).trans left)
  · exact leaves_error _
  · exact leaves_error _

theorem consuming (fuel : Nat) : Consuming fuel := by
  induction fuel with
  | zero => exact ⟨fun _ _ => leaves_error _, fun _ _ => leaves_error _, fun _ _ => leaves_error _⟩
  | succ fuel ih => exact ⟨ih.leaves_value, ih.leaves_items, ih.leaves_members⟩

/-! ## Fuel -/

/-- Values and the rests of containers are read alike if their texts are short for the fuel. -/
structure Alike (fuel other : Nat) : Prop where
  value : ∀ depth text, 2 * text.length < min fuel other →
    readValue fuel depth text = readValue other depth text
  items : ∀ depth text, 2 * text.length + 1 < min fuel other →
    readItems fuel depth text = readItems other depth text
  members : ∀ depth text, 2 * text.length + 1 < min fuel other →
    readMembers fuel depth text = readMembers other depth text

private theorem length_lt_of_skipSpace {c : Char} (skipped : skipSpace text = c :: rest) :
    rest.length < text.length := by
  have ends := (skipSpace_suffix text).length_le
  simp only [skipped, List.length_cons] at ends
  omega

private theorem Alike.readValue_eq {fuel other : Nat} (inner : Alike fuel other) (depth : Nat)
    (text : List Char) (short : 2 * text.length < min (fuel + 1) (other + 1)) :
    readValue (fuel + 1) depth text = readValue (other + 1) depth text := by
  rw [readValue, readValue]
  split
  · rfl
  · rfl
  · next rest found =>
      have opened := length_lt_of_skipSpace found
      have behind := (skipSpace_suffix rest).length_le
      have same := inner.items (depth - 1) (skipSpace rest) (by omega)
      split_ifs
      · rfl
      · split
        · rfl
        · rw [same]
  · next rest found =>
      have opened := length_lt_of_skipSpace found
      have behind := (skipSpace_suffix rest).length_le
      have same := inner.members (depth - 1) (skipSpace rest) (by omega)
      split_ifs
      · rfl
      · split
        · rfl
        · rw [same]
  · rfl

private theorem Alike.readItems_eq {fuel other : Nat} (inner : Alike fuel other) (depth : Nat)
    (text : List Char) (short : 2 * text.length + 1 < min (fuel + 1) (other + 1)) :
    readItems (fuel + 1) depth text = readItems (other + 1) depth text := by
  rw [readItems, readItems, inner.value depth text (by omega)]
  cases read : readValue other depth text with
  | error error => rfl
  | ok pair =>
      obtain ⟨item, rest⟩ := pair
      have left := ((consuming other).value depth text item rest read).length_le
      simp only [bind, Except.bind]
      split
      · next more found =>
          have behind := length_lt_of_skipSpace found
          rw [inner.items depth more (by omega)]
      all_goals rfl

private theorem Alike.readMembers_eq {fuel other : Nat} (inner : Alike fuel other) (depth : Nat)
    (text : List Char) (short : 2 * text.length + 1 < min (fuel + 1) (other + 1)) :
    readMembers (fuel + 1) depth text = readMembers (other + 1) depth text := by
  rw [readMembers, readMembers]
  cases named : readMembers.readName (skipSpace text) with
  | error error => rfl
  | ok pair =>
      obtain ⟨name, part⟩ := pair
      have inside := (leaves_readName (skipSpace text) name part named).length_le
      have spaced := (skipSpace_suffix text).length_le
      simp only [bind, Except.bind]
      rw [inner.value depth part (by omega)]
      cases read : readValue other depth part with
      | error error => rfl
      | ok pair =>
          obtain ⟨value, rest⟩ := pair
          have left := ((consuming other).value depth part value rest read).length_le
          dsimp only
          split
          · next more found =>
              have behind := length_lt_of_skipSpace found
              rw [inner.members depth more (by omega)]
          all_goals rfl

theorem alike (fuel other : Nat) : Alike fuel other := by
  induction fuel generalizing other with
  | zero => exact ⟨by simp, by simp, by simp⟩
  | succ fuel ih =>
      cases other with
      | zero => exact ⟨by simp, by simp, by simp⟩
      | succ other =>
          have inner := ih other
          exact ⟨inner.readValue_eq, inner.readItems_eq, inner.readMembers_eq⟩

/-! ## Blanks in front -/

private theorem skipSpace_append {spaces : List Char} (space : ∀ c ∈ spaces, isSpace c = true) :
    skipSpace (spaces ++ text) = skipSpace text :=
  List.dropWhile_append_of_pos space

private theorem readValue_append {spaces : List Char} (space : ∀ c ∈ spaces, isSpace c = true)
    (fuel depth : Nat) : readValue fuel depth (spaces ++ text) = readValue fuel depth text := by
  cases fuel with
  | zero => rfl
  | succ fuel => rw [readValue, readValue, skipSpace_append space]

/-- Space in front of a text makes no difference to what it stands for. -/
theorem parse_spaces_append {spaces source : String}
    (space : ∀ c ∈ spaces.toList, isSpace c = true) :
    parse (spaces ++ source) = parse source := by
  -- the longer text is read with more fuel, and the shorter one already has enough of it
  have enough := (alike (2 * (spaces ++ source).toList.length + 2)
    (2 * source.toList.length + 2)).value depthLimit source.toList (by simp)
  rw [parse, parse, parseVerbatim, parseVerbatim]
  simp only [String.toList_append, readValue_append space] at enough ⊢
  rw [enough]

private theorem readValue_of_blank {c : Char} (blank : Text.isBlank c = true)
    (found : skipSpace text = c :: rest) (fuel depth : Nat) :
    readValue (fuel + 1) depth text = .error .unexpectedCharacter := by
  have differ {other : Char} (bare : Text.isBlank other = false) : c ≠ other := by
    rintro rfl
    simp [bare] at blank
  rw [readValue, found]
  split
  · contradiction
  · next same => exact absurd (List.cons.inj same).1 (differ (by decide))
  · next same => exact absurd (List.cons.inj same).1 (differ (by decide))
  · next same => exact absurd (List.cons.inj same).1 (differ (by decide))
  · next first behind _ _ _ same =>
      obtain ⟨rfl, rfl⟩ := List.cons.inj same
      have sign : c ≠ '-' := differ (by decide)
      have word : c ≠ 'n' ∧ c ≠ 't' ∧ c ≠ 'f' :=
        ⟨differ (by decide), differ (by decide), differ (by decide)⟩
      simp [Text.isDigit_of_isBlank blank, sign, word]

private theorem skipSpace_of_stray {blanks : List Char} (stray : ¬∀ c ∈ blanks, isSpace c = true)
    (text : List Char) : ∃ c ∈ blanks, ∃ rest, skipSpace (blanks ++ text) = c :: rest := by
  cases found : skipSpace blanks with
  | nil => exact absurd (List.dropWhile_eq_nil_iff.mp found) stray
  | cons c more =>
      have member : c ∈ blanks := (skipSpace_suffix blanks).subset (by simp [found])
      refine ⟨c, member, more ++ text, ?_⟩
      rw [skipSpace] at found
      rw [skipSpace, List.dropWhile_append, found]
      rfl

theorem parse_of_stray_blank {blanks source : String}
    (blank : ∀ c ∈ blanks.toList, Text.isBlank c = true)
    (stray : ¬∀ c ∈ blanks.toList, isSpace c = true) :
    parse (blanks ++ source) = .error .unexpectedCharacter := by
  obtain ⟨c, member, rest, found⟩ := skipSpace_of_stray stray source.toList
  have fails := readValue_of_blank (blank c member) found
  rw [parse, parseVerbatim, String.toList_append]
  simp only [fails]
  rfl

end

end Gleaner.Json
