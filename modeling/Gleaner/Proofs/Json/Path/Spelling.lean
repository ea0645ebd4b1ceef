import Gleaner.Proofs.Json.Path.Grammar

/-!
# Spellings of paths

A path can be spelt when each of its names lacks one of the quotation marks and each of its indices
fits in 64 bits.  Steps spelt behind a path go on from where it leads.
-/

namespace Gleaner.Json

/-- The step can be spelt between brackets. -/
def Step.Quotable : Step → Prop
  | .key name => '\'' ∉ name.toList ∨ '"' ∉ name.toList
  | .index position => Fits position
  | .wildcard => True

private theorem digitChar_spec : ∀ d < 10, (Nat.digitChar d).isDigit = true ∧
    Text.digitValue (Nat.digitChar d) = d ∧ (Nat.digitChar d = '0' → d = 0) := by
  decide

private theorem exists_magnitude (number : Nat) (positive : 0 < number) :
    ∃ digits, Magnitude digits ∧ Text.decimalNumber digits = number := by
  induction number using Nat.strong_induction_on with
  | _ number ih =>
      by_cases small : number < 10
      · obtain ⟨digit, value, zero⟩ := digitChar_spec number small
        refine ⟨[number.digitChar], ⟨by simp, ?_, by simpa using digit⟩, ?_⟩
        · simpa using fun same => positive.ne' (zero same)
        · simp [Text.decimalNumber, value]
      · obtain ⟨digits, ⟨nonempty, leading, inside⟩, tens⟩ := ih (number / 10) (by omega) (by omega)
        obtain ⟨digit, ones, -⟩ := digitChar_spec (number % 10) (Nat.mod_lt number (by decide))
        refine ⟨digits ++ [(number % 10).digitChar], ⟨by simp, ?_, ?_⟩, ?_⟩
        · obtain ⟨c, tail, rfl⟩ := List.exists_cons_of_ne_nil nonempty
          exact leading
        · exact List.forall_mem_append.mpr ⟨inside, List.forall_mem_singleton.mpr digit⟩
        · rw [Text.decimalNumber_concat, tens, ones]
          omega

private theorem exists_numeral {position : Int} (fits : Fits position) :
    ∃ word, Numeral word position := by
  rcases Int.lt_trichotomy position 0 with negative | rfl | positive
  · obtain ⟨digits, magnitude, value⟩ := exists_magnitude position.natAbs (by omega)
    have same : position = -(Text.decimalNumber digits : Int) := by omega
    exact ⟨'-' :: digits, same ▸ .minus magnitude (same ▸ fits)⟩
  · exact ⟨['0'], .zero⟩
  · obtain ⟨digits, magnitude, value⟩ := exists_magnitude position.natAbs (by omega)
    have same : position = (Text.decimalNumber digits : Int) := by omega
    exact ⟨digits, same ▸ .plain magnitude (same ▸ fits)⟩

theorem Step.exists_spelling {step : Step} (quotable : step.Quotable) :
    ∃ word, StepSpelling word step := by
  cases step with
  | key name =>
      have between {mark : Char} (quote : mark = '\'' ∨ mark = '"') (closed : mark ∉ name.toList) :
          ∃ word, StepSpelling word (.key name) := by
        have inside := BracketSpelling.quoted quote closed
        rw [String.ofList_toList] at inside
        exact ⟨_, .bracket inside⟩
      rcases quotable with closed | closed
      · exact between (.inl rfl) closed
      · exact between (.inr rfl) closed
  | index position =>
      obtain ⟨word, numeral⟩ := exists_numeral quotable
      exact ⟨_, .bracket (.index numeral)⟩
  | wildcard => exact ⟨_, .bracket .wildcard⟩

theorem Path.exists_spelling {path : Path} (quotable : ∀ step ∈ path, step.Quotable) :
    ∃ text, StepsSpelling text path := by
  induction path with
  | nil => exact ⟨[], .nil⟩
  | cons step path ih =>
      obtain ⟨here, there⟩ := List.forall_mem_cons.mp quotable
      obtain ⟨word, first⟩ := Step.exists_spelling here
      obtain ⟨text, rest⟩ := ih there
      exact ⟨word ++ text, .cons first rest⟩

/-- A text is read as the path that it spells and as no other; every path of quotable steps has a
spelling, and steps spelt behind a path are read behind it. -/
theorem compile_iff_spelling :
    (∀ (text : String) (path : Path),
      Path.compile text = .ok path ↔ PathSpelling text.toList path) ∧
    (∀ path : Path, (∀ step ∈ path, step.Quotable) → ∃ text, Path.compile text = .ok path) ∧
    ∀ (text steps : String) (path more : Path), Path.compile text = .ok path →
      StepsSpelling steps.toList more → Path.compile (text ++ steps) = .ok (path ++ more) := by
  refine ⟨fun text path => Path.compile_eq_ok_iff, fun path quotable => ?_,
    fun text steps path more read behind => ?_⟩
  · obtain ⟨text, spelt⟩ := Path.exists_spelling quotable
    refine ⟨String.ofList ('$' :: text), Path.compile_eq_ok_iff.mpr ?_⟩
    rw [String.toList_ofList]
    exact .rooted (.steps spelt)
  · rw [Path.compile_eq_ok_iff, String.toList_append]
    exact (Path.compile_eq_ok_iff.mp read).append behind

/-- A name may hold the mark that does not close it, and an index may have a sign. -/
theorem compile_of_quoted_name :
    PathSpelling "$.a['b.\"c']".toList [.key "a", .key "b.\"c"] ∧
      (∃ text, Path.compile text = .ok [.key "it's", .index minIndex, .wildcard]) ∧
        Path.compile "$.a['b.\"c'][-12][*]" =
          .ok [.key "a", .key "b.\"c", .index (-12), .wildcard] := by
  have read : Path.compile "$.a['b.\"c']" = .ok [.key "a", .key "b.\"c"] := by decide
  have magnitude : Magnitude ['1', '2'] := ⟨by decide, by decide, by simp⟩
  have fits : Fits (-12) := by unfold Fits minIndex maxIndex; omega
  have numeral : Numeral ['-', '1', '2'] (-12) := .minus magnitude fits
  refine ⟨(compile_iff_spelling.1 _ _).mp read, compile_iff_spelling.2.1 _ ?_, ?_⟩
  · simp [Step.Quotable, Fits, minIndex, maxIndex]
  · exact compile_iff_spelling.2.2 _ "[-12][*]" _ [.index (-12), .wildcard] read
      (.cons (.bracket (.index numeral)) (.cons (.bracket .wildcard) .nil))

end Gleaner.Json
