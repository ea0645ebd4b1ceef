import Gleaner.Proofs.Json.Path.Grammar
import Gleaner.Proofs.Text.Slice

/-!
# Refused paths

A text that spells no path is refused at a place inside it: what stands in front of the place
spells a path, and no step starts there.
-/

namespace Gleaner.Json

variable {text word rest : List Char} {step : Step} {path : Path}

/-! ## Where reading stops -/

/-- A text that starts with a step is read on, although perhaps as a step with a longer name. -/
private theorem StepSpelling.takeStep?_ne_none (spelt : StepSpelling word step) (rest : List Char) :
    takeStep? (word ++ rest) ≠ none := by
  cases spelt with
  | @dot name bare =>
      obtain ⟨c, tail, rfl⟩ := List.exists_cons_of_ne_nil bare.1
      have inside : isBareChar c = true := (isBareChar_eq_true_iff c).mpr (bare.2 c (by simp))
      have goesOn : takeBare? (c :: tail ++ rest) ≠ none := by
        rw [ne_eq, takeBare?_eq_none_iff]
        intro stops
        simp [stops c rfl] at inside
      simpa [takeStep?] using goesOn
  | @bracket text step inside =>
      have taken : takeBracketed? (text ++ ']' :: rest) = some (step, ']' :: rest) :=
        inside.read (by simp [Ends])
      simp [takeStep?, taken]

private theorem length_lt_of_takeStep? (found : takeStep? text = some (step, rest)) :
    rest.length < text.length := by
  obtain ⟨word, rfl, spelt⟩ := stepSpelling_of_takeStep? found
  obtain ⟨c, tail, rfl, -⟩ := spelt.opens
  simp only [List.cons_append, List.length_cons, List.length_append]
  omega

private theorem takeStep?_takeSteps {fuel : Nat} (enough : text.length ≤ fuel) :
    takeStep? (takeSteps fuel text).2 = none := by
  induction fuel generalizing text with
  | zero =>
      obtain rfl := List.length_eq_zero_iff.mp (Nat.le_zero.mp enough)
      rfl
  | succ fuel ih =>
      unfold takeSteps
      split
      · next step behind read =>
          have shorter := length_lt_of_takeStep? read
          exact ih (by omega)
      · next stuck => exact stuck

private theorem exists_pathSpelling_of_skipRoot (parts : skipRoot text = word ++ rest)
    (spelt : RelativeSpelling word path) :
    ∃ front, text = front ++ rest ∧ PathSpelling front path := by
  unfold skipRoot at parts
  split at parts
  · exact ⟨'$' :: word, congrArg ('$' :: ·) parts, .rooted spelt⟩
  · next unrooted =>
      refine ⟨word, parts, .rootless (fun starts => ?_) spelt⟩
      obtain ⟨tail, rfl⟩ := List.head?_eq_some_iff.mp starts
      exact unrooted (tail ++ rest) parts

private theorem takePath_spelling (text : List Char) :
    ∃ front, text = front ++ (takePath text).2 ∧ PathSpelling front (takePath text).1 ∧
      takeStep? (takePath text).2 = none := by
  suffices relative : ∃ word, skipRoot text = word ++ (takePath text).2 ∧
      RelativeSpelling word (takePath text).1 ∧ takeStep? (takePath text).2 = none by
    obtain ⟨word, parts, spelt, stuck⟩ := relative
    obtain ⟨front, whole, path⟩ := exists_pathSpelling_of_skipRoot parts spelt
    exact ⟨front, whole, path, stuck⟩
  unfold takePath
  split
  · next name behind read =>
      obtain ⟨word, parts, bare, rfl, -⟩ := takeBare?_eq_some_iff.mp read
      obtain ⟨others, more, spelt⟩ := takeSteps_spelling behind.length behind
      refine ⟨word ++ others, ?_, .named bare spelt, takeStep?_takeSteps le_rfl⟩
      rw [List.append_assoc, ← more, parts]
  · obtain ⟨word, parts, spelt⟩ := takeSteps_spelling (skipRoot text).length (skipRoot text)
    exact ⟨word, parts, .steps spelt, takeStep?_takeSteps le_rfl⟩

/-! ## The place of the refusal -/

private theorem BadPath.parts_of_ofText {bad : BadPath} (refused : Path.ofText text = .error bad) :
    text = bad.accepted ++ bad.rest ∧ bad.rest ≠ [] ∧ takeStep? bad.rest = none ∧
      ∃ path, PathSpelling bad.accepted path := by
  obtain ⟨front, parts, spelt, stuck⟩ := takePath_spelling text
  unfold Path.ofText at refused
  split at refused
  · contradiction
  · next path behind unfinished taken =>
      obtain rfl := Except.error.inj refused
      rw [taken] at parts spelt stuck
      have accepted : text.take (text.length - behind.length) = front := by
        rw [parts, List.length_append, Nat.add_sub_cancel, List.take_left]
      dsimp only
      rw [accepted]
      exact ⟨parts, unfinished, stuck, path, spelt⟩

theorem Path.compile_eq_error_iff {text : String} {error : QueryError} :
    Path.compile text = .error error ↔
      ∃ bad, Path.parse text = .error bad ∧ error = .invalidPath text bad.report := by
  unfold Path.compile
  cases Path.parse text <;> simp [eq_comm]

/-- A text that is refused as a path is refused at a place between two of its characters and in
front of the last: what stands before the place is a path, and what stands behind it starts with
no step. -/
theorem refused_at_first_bad_step {text : String} {error : QueryError}
    (refused : Path.compile text = .error error) :
    ∃ bad, Path.parse text = .error bad ∧ error = .invalidPath text bad.report ∧
      bad.offset < text.utf8ByteSize ∧ String.Pos.Raw.isValid text ⟨bad.offset⟩ = true ∧
      ∃ front back, text = front ++ back ∧ front.utf8ByteSize = bad.offset ∧
        (∃ path, Path.compile front = .ok path) ∧
        ∀ word step, StepSpelling word step → ¬word <+: back.toList := by
  obtain ⟨bad, read, rfl⟩ := Path.compile_eq_error_iff.mp refused
  obtain ⟨parts, unfinished, stuck, path, spelt⟩ := BadPath.parts_of_ofText read
  have whole : text = String.ofList bad.accepted ++ String.ofList bad.rest := by
    rw [← String.ofList_append, ← parts, String.ofList_toList]
  have before : (String.ofList bad.accepted).utf8ByteSize = bad.offset := by
    rw [String.utf8ByteSize_ofList, Text.utf8Len_eq_byteLength, BadPath.offset]
  have behind : 0 < (String.ofList bad.rest).utf8ByteSize := by
    obtain ⟨c, tail, same⟩ := List.exists_cons_of_ne_nil unfinished
    rw [String.utf8ByteSize_ofList, Text.utf8Len_eq_byteLength, same, Text.byteLength]
    have positive := c.utf8Size_pos
    omega
  refine ⟨bad, read, rfl, ?_, ?_, _, _, whole, before, ⟨path, ?_⟩, fun word step starts found => ?_⟩
  · rw [whole, String.utf8ByteSize_append, before]
    omega
  · rw [whole, ← String.ofList_append]
    exact Text.isValid_ofList_iff.mpr ⟨_, _, rfl, rfl⟩
  · rwa [Path.compile_eq_ok_iff, String.toList_ofList]
  · rw [String.toList_ofList] at found
    obtain ⟨rest, same⟩ := found
    exact starts.takeStep?_ne_none rest (same ▸ stuck)

/-- A bracket with a number that no index can be: the place is the bracket, behind a name with
characters of more than one byte. -/
theorem refused_at_large_index :
    let text := "$.größe[9223372036854775808].x"
    let bad : BadPath :=
      { accepted := "$.größe".toList, rest := "[9223372036854775808].x".toList }
    Path.compile text = .error (.invalidPath text bad.report) ∧ bad.offset = 9 ∧
      ∃ front back, text = front ++ back ∧ front.utf8ByteSize = 9 ∧
        (∃ path, Path.compile front = .ok path) ∧
        ∀ word step, StepSpelling word step → ¬word <+: back.toList := by
  intro text bad
  have read : Path.parse text = .error bad := by decide
  have refused : Path.compile text = .error (.invalidPath text bad.report) :=
    Path.compile_eq_error_iff.mpr ⟨bad, read, rfl⟩
  have offset : bad.offset = 9 := by decide
  obtain ⟨other, again, -, -, -, front, back, whole, before, first, stuck⟩ :=
    refused_at_first_bad_step refused
  obtain rfl : bad = other := Except.error.inj (read.symm.trans again)
  exact ⟨refused, offset, front, back, whole, before.trans offset, first, stuck⟩

end Gleaner.Json
