import Gleaner.Proofs.Regex.Threads

/-!
# Searches by steps

A search goes on from place to place with the threads that arrive there.  Only those that lead to a
match decide what it finds: it starts where the program first leads to a match, and the first such
thread is the one whose match is found.
-/

namespace Gleaner.Regex

namespace Program

variable {program : Program} {before : Option Char} {text : List Char}

/-! ## Taking a character -/

/-- Induction over threads by what they do at a character: they have accepted, they wait for one, or
they take no part. -/
@[elab_as_elim]
theorem threads_induction {motive : List Thread → Prop} (nil : motive [])
    (accepts : ∀ thread threads, program.code[thread.at_]? = some .accept → motive threads →
      motive (thread :: threads))
    (takes : ∀ thread threads members next,
      program.code[thread.at_]? = some (.take members next) → motive threads →
        motive (thread :: threads))
    (skips : ∀ thread threads,
      (∀ c trail others,
        program.step c ({ at_ := thread.at_, trail } :: others) = program.step c others) →
          motive threads → motive (thread :: threads))
    (threads : List Thread) : motive threads := by
  induction threads with
  | nil => exact nil
  | cons thread threads ih =>
      cases there : program.code[thread.at_]? with
      | none => exact skips thread threads (fun c trail others => by rw [step, there]) ih
      | some instr =>
          cases instr with
          | accept => exact accepts thread threads there ih
          | take members next => exact takes thread threads members next there ih
          | _ => exact skips thread threads (fun c trail others => by rw [step, there]) ih

/-- The trail of the first thread that has accepted. -/
def accepted (program : Program) (threads : List Thread) : Option Trail :=
  (program.step none threads).2

theorem accepted_cons {thread : Thread} (there : program.code[thread.at_]? = some .accept)
    (threads : List Thread) : program.accepted (thread :: threads) = some thread.trail := by
  rw [accepted, step, there]

private theorem step_snd (c : Option Char) (threads : List Thread) :
    (program.step c threads).2 = program.accepted threads := by
  induction threads using program.threads_induction with
  | nil => rfl
  | accepts thread threads there => rw [accepted_cons there, step, there]
  | takes thread threads members next there ih =>
      cases taken : c.any fun c => members c.toNat <;>
        simpa [accepted, step, there, taken] using ih
  | skips thread threads skip ih => rw [accepted, skip, skip, ih, accepted]

private theorem leading_cons (before : Option Char) (text : List Char) (thread : Thread)
    (threads : List Thread) :
    program.leading before text (thread :: threads) =
      if program.live before text thread.at_ = true then
        thread :: program.leading before text threads
      else program.leading before text threads :=
  List.filter_cons

theorem leading_append (before : Option Char) (text : List Char) (front back : List Thread) :
    program.leading before text (front ++ back) =
      program.leading before text front ++ program.leading before text back :=
  List.filter_append front back

private theorem leads_take_iff {c : Char} {here next : Nat} {members : CodeSet}
    (takes : program.code[here]? = some (.take members next)) :
    program.Leads before (c :: text) here ↔
      members c.toNat = true ∧ program.Leads (some c) text next := by
  constructor
  · intro leads
    rcases leads.of_stays (by simp [successors, takes]) with
      ends | ⟨_, _, _, _, same, again, member, behind⟩
    · simp [takes] at ends
    · cases same
      cases takes.symm.trans again
      exact ⟨member, behind⟩
  · rintro ⟨member, behind⟩
    exact .take takes member behind

/-- A thread that leads to no match takes no character to an instruction that leads to one. -/
theorem step_leading (before : Option Char) (c : Char) (text : List Char)
    (threads : List Thread) :
    (program.step (some c) (program.leading before (c :: text) threads)).1 =
      program.leading (some c) text (program.step (some c) threads).1 := by
  induction threads using program.threads_induction with
  | nil => rfl
  | accepts thread threads there =>
      rw [leading_cons, if_pos (live_eq_true_iff.mpr (.accept there)), step, step, there]
      rfl
  | takes thread threads members next there ih =>
      rw [leading_cons]
      by_cases member : members c.toNat = true
      · have same : program.live before (c :: text) thread.at_ = program.live (some c) text next :=
          Bool.eq_iff_iff.mpr (by simp [live_eq_true_iff, leads_take_iff there, member])
        rw [same]
        cases alive : program.live (some c) text next <;>
          simp [step, there, member, alive, ih, leading_cons]
      · have dead : program.live before (c :: text) thread.at_ = false :=
          Bool.eq_false_iff.mpr (by simp [live_eq_true_iff, leads_take_iff there, member])
        simpa [dead, step, there, member] using ih
  | skips thread threads skip ih =>
      rw [leading_cons, skip, ← ih]
      split
      · rw [skip]
      · rfl

/-- A thread that leads to no match has not accepted. -/
theorem accepted_leading (before : Option Char) (text : List Char) (threads : List Thread) :
    program.accepted (program.leading before text threads) = program.accepted threads := by
  induction threads using program.threads_induction with
  | nil => rfl
  | accepts thread threads there =>
      rw [leading_cons, if_pos (live_eq_true_iff.mpr (.accept there)), accepted_cons there,
        accepted_cons there]
  | takes thread threads members next there ih =>
      rw [leading_cons]
      unfold accepted at ih ⊢
      split <;> simpa [step, there] using ih
  | skips thread threads skip ih =>
      unfold accepted at ih ⊢
      rw [leading_cons, skip, ← ih]
      split
      · rw [skip]
      · rfl

end Program

/-! ## A search in progress -/

/-- What a search has come to at a place in the text. -/
structure Scan where
  /-- The match found so far. -/
  best : Option Found
  /-- The threads that arrive. -/
  threads : List Thread
  /-- Number of characters before the place. -/
  position : Nat
  /-- The character before the place. -/
  before : Option Char

namespace Scan

/-- What a search starts with. -/
def first : Scan where
  best := none
  threads := []
  position := 0
  before := none

variable (program : Program) (scan : Scan)

/-- The threads that arrive, with the one that starts here as long as there is no match. -/
def entering : List Thread :=
  Program.advance.entering program scan.best scan.threads scan.position

/-- The threads that wait here. -/
def waiting (after : Option Char) : List Thread :=
  program.arrive { position := scan.position, before := scan.before, after } (scan.entering program)

/-- The match found up to here. -/
def found (after : Option Char) : Option Found :=
  ((program.accepted (scan.waiting program after)).map (·.found scan.position)).or scan.best

/-- The search one character further. -/
def next (c : Char) : Scan where
  best := scan.found program (some c)
  threads := (program.step (some c) (scan.waiting program (some c))).1
  position := scan.position + 1
  before := some c

/-- The match that is found in the rest of the text. -/
def result : Scan → List Char → Option Found
  | scan, [] => scan.found program none
  | scan, c :: text => result (scan.next program c) text

section

variable {program : Program} {scan : Scan} {text : List Char}

private theorem getLast?_cons_or (c : Char) (text : List Char) (before : Option Char) :
    (c :: text).getLast?.or before = text.getLast?.or (some c) := by
  rw [List.getLast?_cons]
  cases text.getLast? <;> rfl

theorem entering_of_best {found : Found} (best : scan.best = some found) :
    scan.entering program = scan.threads := by
  simp [entering, Program.advance.entering, best]

theorem entering_of_no_best (best : scan.best = none) :
    scan.entering program =
      scan.threads ++ [{ at_ := program.start, trail := { start := scan.position } }] := by
  simp [entering, Program.advance.entering, best]

theorem leading_next_threads (c : Char) :
    program.leading (some c) text (scan.next program c).threads =
      (program.step (some c)
        (program.leading scan.before (c :: text) (scan.waiting program (some c)))).1 :=
  (Program.step_leading scan.before c text _).symm

/-! ### Searches without threads that lead to a match -/

private theorem found_of_entering
    (dead : program.leading scan.before text (scan.entering program) = []) :
    scan.found program text.head? = scan.best := by
  have none : program.leading scan.before text (scan.waiting program text.head?) = [] :=
    Program.leading_arrive_eq_nil _ rfl dead
  rw [found, ← Program.accepted_leading scan.before text, none]
  rfl

private theorem next_of_entering {c : Char}
    (dead : program.leading scan.before (c :: text) (scan.entering program) = []) :
    program.leading (some c) text (scan.next program c).threads = [] := by
  have none : program.leading scan.before (c :: text) (scan.waiting program (some c)) = [] :=
    Program.leading_arrive_eq_nil _ rfl dead
  rw [leading_next_threads, none]
  rfl

private theorem result_of_threads {found : Found} (best : scan.best = some found)
    (dead : program.leading scan.before text scan.threads = []) :
    scan.result program text = some found := by
  induction text generalizing scan with
  | nil =>
      rw [← entering_of_best best] at dead
      exact (found_of_entering dead).trans best
  | cons c text ih =>
      rw [← entering_of_best best] at dead
      exact ih ((found_of_entering dead).trans best) (next_of_entering dead)

private theorem advance_cons (program : Program) (scan : Scan) (c : Char) (text : List Char) :
    program.advance scan.best scan.threads scan.position scan.before (c :: text) =
      if (scan.next program c).threads.isEmpty && (scan.next program c).best.isSome then
        (scan.next program c).best
      else
        program.advance (scan.next program c).best (scan.next program c).threads
          (scan.next program c).position (scan.next program c).before text := by
  simp only [Program.advance, next, found, ← Program.step_snd (some c), waiting, entering]
  generalize program.step (some c) _ = taking
  obtain ⟨taken, accepted⟩ := taking
  cases accepted <;> rfl

private theorem advance_eq_result (program : Program) (scan : Scan) (text : List Char) :
    program.advance scan.best scan.threads scan.position scan.before text =
      scan.result program text := by
  induction text generalizing scan with
  | nil =>
      rw [Program.advance, result, found, Program.accepted, waiting, entering]
      split <;> simp [*]
  | cons c text ih =>
      rw [advance_cons, ih, result]
      -- It stops early only with a match and no threads, and then it finds nothing better.
      split
      · next done =>
          obtain ⟨none, found⟩ := Bool.and_eq_true_iff.mp done
          obtain ⟨best, here⟩ := Option.isSome_iff_exists.mp found
          have dead : program.leading (some c) text (scan.next program c).threads = [] := by
            rw [List.isEmpty_iff.mp none]
            rfl
          rw [here]
          exact (result_of_threads here dead).symm
      · rfl

theorem search_eq_result (program : Program) (text : List Char) :
    program.search text = first.result program text :=
  advance_eq_result program first text

private theorem entering_dead (best : scan.best = none)
    (dead : program.leading scan.before text scan.threads = [])
    (starts : ¬ program.Leads scan.before text program.start) :
    program.leading scan.before text (scan.entering program) = [] := by
  rw [entering_of_no_best best, Program.leading_append, dead]
  simp [Program.leading, Program.live_eq_true_iff, starts]

/-- The search has come to the start of the match that it finds: the program leads to a match from
here on, and no thread from an earlier place does. -/
structure Begins (program : Program) (scan : Scan) (text : List Char) (found : Found) : Prop where
  /-- There is no match yet. -/
  best : scan.best = none
  /-- No thread that arrives leads to one. -/
  dead : program.leading scan.before text scan.threads = []
  /-- One starts here. -/
  starts : program.Leads scan.before text program.start
  /-- It is what the search finds. -/
  result : scan.result program text = some found

private theorem exists_begins {found : Found} (best : scan.best = none)
    (dead : program.leading scan.before text scan.threads = [])
    (result : scan.result program text = some found) :
    ∃ skipped rest start, text = skipped ++ rest ∧
      start.position = scan.position + skipped.length ∧
      start.before = skipped.getLast?.or scan.before ∧ Begins program start rest found := by
  induction text generalizing scan with
  | nil =>
      by_cases starts : program.Leads scan.before [] program.start
      · exact ⟨[], [], scan, rfl, rfl, rfl, best, dead, starts, result⟩
      · have none := found_of_entering (entering_dead best dead starts)
        cases best.symm.trans (none.symm.trans result)
  | cons c text ih =>
      by_cases starts : program.Leads scan.before (c :: text) program.start
      · exact ⟨[], c :: text, scan, rfl, rfl, rfl, best, dead, starts, result⟩
      · have entering := entering_dead best dead starts
        obtain ⟨skipped, rest, start, parts, position, before, begins⟩ :=
          ih ((found_of_entering entering).trans best) (next_of_entering entering) result
        refine ⟨c :: skipped, rest, start, congrArg (c :: ·) parts, ?_, ?_, begins⟩
        · simp only [position, next, List.length_cons]
          omega
        · exact before.trans (getLast?_cons_or c skipped _).symm

/-! ### The preferred thread of a search -/

private theorem exists_entering (before : Option Char) {first : Thread} {others : List Thread}
    (leads : program.leading before text scan.threads = first :: others) :
    ∃ others, program.leading before text (scan.entering program) = first :: others := by
  cases best : scan.best with
  | some found => exact ⟨others, by rw [entering_of_best best, leads]⟩
  | none =>
      exact ⟨_, by rw [entering_of_no_best best, Program.leading_append, leads, List.cons_append]⟩

/-- The first thread that leads to a match has accepted here, and then there are no others, or it
is the first one at the next place. -/
private theorem step_of_entering {first : Thread} {others : List Thread}
    (leads : program.leading scan.before text (scan.entering program) = first :: others) :
    (∃ found, scan.found program text.head? = some found ∧ found.start = first.trail.start ∧
      ∀ c rest, text = c :: rest →
        program.leading (some c) rest (scan.next program c).threads = []) ∨
    ∃ c rest thread behind, text = c :: rest ∧ thread.trail.start = first.trail.start ∧
      program.leading (some c) rest (scan.next program c).threads = thread :: behind := by
  -- Which of the preferred threads waits is left open, but they all started at the same place.
  obtain ⟨thread, behind, waiting, start, alive, stays⟩ :=
    Program.exists_leading_arrive ⟨scan.position, scan.before, text.head?⟩ rfl leads
  change program.leading scan.before text (scan.waiting program text.head?) = _ at waiting
  rcases alive.of_stays stays with ends | ⟨c, rest, members, next, rfl, takes, member, more⟩
  · refine .inl ⟨thread.trail.found scan.position, ?_, start, ?_⟩
    · rw [found, ← Program.accepted_leading scan.before text, waiting, Program.accepted_cons ends]
      rfl
    · rintro c rest rfl
      rw [List.head?_cons] at waiting
      rw [leading_next_threads, waiting, Program.step, ends]
  · rw [List.head?_cons] at waiting
    refine .inr ⟨c, rest, { thread with at_ := next }, (program.step (some c) behind).1, rfl, start,
      ?_⟩
    rw [leading_next_threads, waiting, Program.step, takes]
    simp [member]

private theorem result_of_entering {first : Thread} {others : List Thread}
    (leads : program.leading scan.before text (scan.entering program) = first :: others) :
    ∃ found, scan.result program text = some found ∧ found.start = first.trail.start := by
  induction text generalizing scan first others with
  | nil =>
      rcases step_of_entering leads with ⟨found, here, start, -⟩ | ⟨_, _, _, _, same, -⟩
      · exact ⟨found, here, start⟩
      · contradiction
  | cons c text ih =>
      rcases step_of_entering leads with ⟨found, here, start, alone⟩ |
        ⟨_, _, thread, behind, same, start, more⟩
      · have best : (scan.next program c).best = some found := here
        have result := result_of_threads best (alone c text rfl)
        exact ⟨found, result, start⟩
      · cases same
        obtain ⟨others, entering⟩ := exists_entering (scan.next program c).before more
        obtain ⟨found, result, same⟩ := ih entering
        exact ⟨found, result, same.trans start⟩

theorem Begins.start {found : Found} (begins : Begins program scan text found) :
    found.start = scan.position := by
  have entering : program.leading scan.before text (scan.entering program) =
      [{ at_ := program.start, trail := { start := scan.position } }] := by
    rw [entering_of_no_best begins.best, Program.leading_append, begins.dead]
    simp [Program.leading, Program.live_eq_true_iff, begins.starts]
  obtain ⟨again, same, start⟩ := result_of_entering entering
  obtain rfl := Option.some.inj (same.symm.trans begins.result)
  exact start

private theorem exists_result_of_best (program : Program) (text : List Char) {found : Found}
    (best : scan.best = some found) : ∃ found, scan.result program text = some found := by
  induction text generalizing scan found with
  | nil => exact Option.isSome_iff_exists.mp (by simp [result, Scan.found, best])
  | cons c text ih =>
      obtain ⟨found, here⟩ : ∃ found, (scan.next program c).best = some found :=
        Option.isSome_iff_exists.mp (by simp [next, Scan.found, best])
      exact ih here

private theorem exists_result {front back : List Char} (best : scan.best = none)
    (leads : program.Leads (front.getLast?.or scan.before) back program.start) :
    ∃ found, scan.result program (front ++ back) = some found := by
  induction front generalizing scan with
  | nil =>
      cases entering : program.leading scan.before back (scan.entering program) with
      | nil =>
          rw [entering_of_no_best best, Program.leading_append] at entering
          have new := (List.append_eq_nil_iff.mp entering).2
          rw [List.getLast?_nil, Option.none_or] at leads
          simp [Program.leading, Program.live_eq_true_iff, leads] at new
      | cons first others =>
          obtain ⟨found, result, -⟩ := result_of_entering entering
          exact ⟨found, result⟩
  | cons c front ih =>
      cases here : (scan.next program c).best with
      | some found =>
          have later := exists_result_of_best program (front ++ back) here
          exact later
      | none => exact ih here (getLast?_cons_or c front _ ▸ leads)

private theorem stop_of_found {after : Option Char} {found : Found}
    (here : scan.found program after = some found) :
    scan.best = some found ∨ found.stop = scan.position := by
  unfold Scan.found at here
  cases ends : program.accepted (scan.waiting program after) with
  | none => exact .inl (by simpa [ends] using here)
  | some trail =>
      rw [ends] at here
      cases here
      exact .inr rfl

private theorem stop_of_result {found : Found} (result : scan.result program text = some found) :
    scan.best = some found ∨
      scan.position ≤ found.stop ∧ found.stop ≤ scan.position + text.length := by
  induction text generalizing scan with
  | nil =>
      refine (stop_of_found result).imp_right fun stop => ?_
      rw [stop]
      exact ⟨le_rfl, le_rfl⟩
  | cons c text ih =>
      rcases ih result with here | ⟨behind, inside⟩
      · refine (stop_of_found here).imp_right fun stop => ?_
        rw [stop]
        exact ⟨le_rfl, Nat.le_add_right _ _⟩
      · simp only [next] at behind inside
        rw [List.length_cons]
        omega

/-- A match that ends here is found here. -/
theorem found_of_stop {found : Found} (result : scan.result program text = some found)
    (stop : found.stop = scan.position) : scan.found program text.head? = some found := by
  cases text with
  | nil => exact result
  | cons c text =>
      have later : (scan.next program c).result program text = some found := result
      rcases stop_of_result later with here | ⟨behind, -⟩
      · exact here
      · simp only [next] at behind
        omega

end

end Scan

namespace Program

variable {program : Program} {text : List Char} {found : Found}

/-- A match splits the text, and the search begins it at its start. -/
theorem search_parts (search : program.search text = some found) :
    ∃ skipped inner behind start, text = skipped ++ inner ++ behind ∧
      found.start = skipped.length ∧ found.stop = skipped.length + inner.length ∧
      start.position = skipped.length ∧ start.before = skipped.getLast? ∧
      Scan.Begins program start (inner ++ behind) found := by
  rw [Scan.search_eq_result] at search
  obtain ⟨skipped, rest, start, rfl, position, before, begins⟩ := Scan.exists_begins rfl rfl search
  rw [Scan.first, Nat.zero_add] at position
  rw [Scan.first, Option.or_none] at before
  have first := begins.start
  rcases Scan.stop_of_result begins.result with earlier | ⟨behind, inside⟩
  · rw [begins.best] at earlier
    contradiction
  · refine ⟨skipped, rest.take (found.stop - skipped.length),
      rest.drop (found.stop - skipped.length), start, ?_, first.trans position, ?_, position,
      before, ?_⟩
    · rw [List.append_assoc, List.take_append_drop]
    · rw [List.length_take]
      omega
    · rwa [List.take_append_drop]

/-- Somewhere in the text the program accepts what follows. -/
def Occurs (program : Program) (text : List Char) : Prop :=
  ∃ front back, text = front ++ back ∧ program.Leads front.getLast? back program.start

/-- A search finds a match exactly if there is one. -/
theorem exists_search_iff : (∃ found, program.search text = some found) ↔ program.Occurs text := by
  constructor
  · rintro ⟨found, search⟩
    obtain ⟨skipped, inner, behind, start, parts, -, -, -, before, begins⟩ := search_parts search
    exact ⟨skipped, inner ++ behind, by rw [parts, List.append_assoc], before ▸ begins.starts⟩
  · rintro ⟨front, back, rfl, leads⟩
    rw [Scan.search_eq_result]
    exact Scan.exists_result rfl (by rwa [Scan.first, Option.or_none])

end Program

end Gleaner.Regex
