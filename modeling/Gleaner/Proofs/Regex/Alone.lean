import Gleaner.Proofs.Regex.Scan
import Mathlib.Data.List.Basic

/-!
# Matches without the text around them

The text of a match, searched alone, is matched as a whole and in the same way, as long as no
condition of the program is decided differently at its ends.  The threads of the two searches agree
but for those that lead to no match in the longer text.
-/

namespace Gleaner.Regex

/-! ## Searches whose positions are counted from elsewhere -/

/-- The trail of the same places in a text with as many more characters in front. -/
def Trail.shift (count : Nat) (trail : Trail) : Trail where
  start := trail.start + count
  groupStart := trail.groupStart.map (· + count)
  groupEnd := trail.groupEnd.map (· + count)

/-- The thread in a text with as many more characters in front. -/
def Thread.shift (count : Nat) (thread : Thread) : Thread :=
  { thread with trail := thread.trail.shift count }

/-- The match in a text with as many more characters in front. -/
def Found.shift (count : Nat) (found : Found) : Found where
  start := found.start + count
  stop := found.stop + count
  group := found.group.map fun (start, stop) => (start + count, stop + count)

private theorem Trail.found_shift (count position : Nat) (trail : Trail) :
    (trail.shift count).found (position + count) = (trail.found position).shift count := by
  obtain ⟨start, groupStart, groupEnd⟩ := trail
  cases groupStart <;> cases groupEnd <;> rfl

namespace Program

variable {program : Program}

private theorem passing_shift (count position : Nat) (thread : Thread) :
    program.passing (position + count) (thread.shift count) =
      (program.passing position thread).shift count := by
  unfold passing Thread.shift
  dsimp only
  split <;> rfl

private theorem step_shift (count : Nat) (c : Option Char) (threads : List Thread) :
    program.step c (threads.map (Thread.shift count)) =
      ((program.step c threads).1.map (Thread.shift count),
        (program.step c threads).2.map (Trail.shift count)) := by
  have here (thread : Thread) : (thread.shift count).at_ = thread.at_ := rfl
  induction threads using program.threads_induction with
  | nil => rfl
  | accepts thread threads there =>
      rw [List.map_cons, step, step, here, there]
      rfl
  | takes thread threads members next there ih =>
      rw [List.map_cons, step, step, here, there]
      dsimp only
      rw [ih]
      split <;> rfl
  | skips thread threads skip ih =>
      rw [skip, ← ih]
      exact skip c (thread.trail.shift count) _

private theorem accepted_shift (count : Nat) (threads : List Thread) :
    program.accepted (threads.map (Thread.shift count)) =
      (program.accepted threads).map (Trail.shift count) := by
  rw [accepted, step_shift, accepted]

private theorem leading_shift (program : Program) (before : Option Char) (text : List Char)
    (count : Nat) (threads : List Thread) :
    program.leading before text (threads.map (Thread.shift count)) =
      (program.leading before text threads).map (Thread.shift count) := by
  simp [leading, List.filter_map, Function.comp_def, Thread.shift]

end Program

/-! ## Searching a part of the text -/

/-- A search in a part of the text that has come to the same place as a search in all of it: they
have found the same, and the threads that lead to a match in the whole text are the same.  The
positions in the part are counted from its start, with `count` characters in front. -/
structure Alongside (program : Program) (count : Nat) (text : List Char) (whole part : Scan) :
    Prop where
  /-- They are at the same place. -/
  position : whole.position = part.position + count
  /-- They have found the same. -/
  best : whole.best = part.best.map (Found.shift count)
  /-- The same threads lead to a match in the rest of the whole text. -/
  threads : program.leading whole.before text whole.threads =
    (program.leading whole.before text part.threads).map (Thread.shift count)

namespace Alongside

variable {program : Program} {count : Nat} {text : List Char} {whole part : Scan}

theorem entering (along : Alongside program count text whole part) :
    program.leading whole.before text (whole.entering program) =
      (program.leading whole.before text (part.entering program)).map (Thread.shift count) := by
  cases found : part.best with
  | some best =>
      have also : whole.best = some (best.shift count) := along.best.trans (by rw [found]; rfl)
      rw [Scan.entering_of_best found, Scan.entering_of_best also, along.threads]
  | none =>
      have also : whole.best = none := along.best.trans (by rw [found]; rfl)
      have new := program.leading_shift whole.before text count
        [{ at_ := program.start, trail := { start := part.position } }]
      rw [Scan.entering_of_no_best found, Scan.entering_of_no_best also, along.position,
        Program.leading_append, Program.leading_append, along.threads, List.map_append, ← new]
      rfl

theorem waiting (along : Alongside program count text whole part) {after : Option Char}
    (alike : program.successors whole.before text.head? = program.successors part.before after) :
    program.leading whole.before text (whole.waiting program text.head?) =
      (program.leading whole.before text (part.waiting program after)).map
        (Thread.shift count) := by
  have arrived : Arrives (program.liveSuccessors whole.before text)
      (program.passing whole.position) (program.leading whole.before text (whole.entering program))
      ∅ (program.leading whole.before text (whole.waiting program text.head?)) :=
    Program.arrives_leading ⟨whole.position, whole.before, text.head?⟩ rfl (whole.entering program)
  have alone : Arrives (program.liveSuccessors whole.before text)
      (program.passing part.position) (program.leading whole.before text (part.entering program))
      ∅ (program.leading whole.before text (part.waiting program after)) :=
    Program.arrives_leading ⟨part.position, part.before, after⟩ alike.symm (part.entering program)
  -- Threads arrive in one order only, so it is enough that both arrive alike but for the count.
  have natural (thread : Thread) : program.passing whole.position (thread.shift count) =
      (program.passing part.position thread).shift count := by
    rw [along.position, Program.passing_shift]
  have moved := alone.map natural
  change Arrives _ _ (List.map (Thread.shift count) _) ∅ (List.map (Thread.shift count) _) at moved
  rw [← along.entering] at moved
  exact arrived.unique moved

theorem found (along : Alongside program count text whole part) {after : Option Char}
    (alike : program.successors whole.before text.head? = program.successors part.before after) :
    whole.found program text.head? = (part.found program after).map (Found.shift count) := by
  have accepted : program.accepted (whole.waiting program text.head?) =
      (program.accepted (part.waiting program after)).map (Trail.shift count) := by
    rw [← Program.accepted_leading whole.before text, along.waiting alike, Program.accepted_shift,
      Program.accepted_leading]
  rw [Scan.found, Scan.found, accepted, along.best, along.position]
  cases program.accepted (part.waiting program after) with
  | none => rfl
  | some trail => exact congrArg some (trail.found_shift count part.position)

theorem next {c : Char} (along : Alongside program count (c :: text) whole part)
    (alike : program.successors whole.before (some c) =
      program.successors part.before (some c)) :
    Alongside program count text (whole.next program c) (part.next program c) where
  position := by
    have place := along.position
    simp only [Scan.next]
    omega
  best := along.found alike
  threads := by
    have waiting := along.waiting alike
    rw [List.head?_cons] at waiting
    change program.leading (some c) text _ = (program.leading (some c) text _).map _
    rw [Scan.leading_next_threads, waiting, Program.step_shift, Scan.next, ← Program.step_leading]

/-- A match that ends with the part is found in the part too. -/
theorem result {inner behind : List Char} {found : Found}
    (along : Alongside program count (inner ++ behind) whole part)
    (here : program.successors whole.before (inner ++ behind).head? =
      program.successors part.before inner.head?)
    (last : inner ≠ [] → program.successors inner.getLast? behind.head? =
      program.successors inner.getLast? none)
    (found_whole : whole.result program (inner ++ behind) = some found)
    (stop : found.stop = whole.position + inner.length) :
    ∃ again, part.result program inner = some again ∧ found = again.shift count := by
  -- Only the first place and the last one have other neighbours in the part.
  induction inner generalizing whole part with
  | nil =>
      have ends := Scan.found_of_stop found_whole stop
      rw [along.found here, Option.map_eq_some_iff] at ends
      obtain ⟨again, result, same⟩ := ends
      exact ⟨again, result, same.symm⟩
  | cons c inner ih =>
      refine ih (along.next here) ?_ (fun more => ?_) found_whole ?_
      · cases inner with
        | nil => exact last (List.cons_ne_nil c [])
        | cons _ _ => rfl
      · have ends := last (List.cons_ne_nil c inner)
        rwa [List.getLast?_cons_of_ne_nil more] at ends
      · simp only [Scan.next, stop, List.length_cons]
        omega

end Alongside

namespace Program

variable {program : Program} {text : List Char} {found : Found}

/-- The conditions that the program checks. -/
def conditions (program : Program) : List Look :=
  program.code.toList.filterMap fun
    | .check condition _ => some condition
    | _ => none

private theorem mem_conditions {here next : Nat} {condition : Look}
    (there : program.code[here]? = some (.check condition next)) :
    condition ∈ program.conditions :=
  List.mem_filterMap.mpr ⟨_, Array.mem_toList_iff.mpr (Array.mem_of_getElem? there), rfl⟩

private theorem successors_congr {before after before' after' : Option Char}
    (alike : ∀ condition ∈ program.conditions,
      condition.holds before after = condition.holds before' after') :
    program.successors before after = program.successors before' after' := by
  funext here
  unfold successors
  split <;> try rfl
  next condition next there => rw [alike condition (mem_conditions there)]

/-- Every condition of the program is decided alike at the ends of the match, whether the match has
the rest of the text around it or stands alone. -/
def StandsAlone (program : Program) (text : List Char) (found : Found) : Prop :=
  ∀ condition ∈ program.conditions,
    condition.holds (text.take found.start).getLast? (text.drop found.start).head? =
        condition.holds none (slice text found.start found.stop).head? ∧
      condition.holds (text.take found.stop).getLast? (text.drop found.stop).head? =
        condition.holds (slice text found.start found.stop).getLast? none

instance : Decidable (program.StandsAlone text found) :=
  inferInstanceAs (Decidable (∀ condition ∈ program.conditions, _))

/-- The text of a match that stands alone is matched as a whole and in the same way. -/
theorem search_slice (search : program.search text = some found)
    (alone : program.StandsAlone text found) :
    ∃ again, program.search (slice text found.start found.stop) = some again ∧
      found = again.shift found.start := by
  obtain ⟨skipped, inner, behind, whole, rfl, start, stop, position, previous, begins⟩ :=
    search_parts search
  have front : (skipped ++ inner ++ behind).take found.stop = skipped ++ inner := by
    rw [stop, ← List.length_append, List.take_left]
  have back : (skipped ++ inner ++ behind).drop found.stop = behind := by
    rw [stop, ← List.length_append, List.drop_left]
  have before : (skipped ++ inner ++ behind).take found.start = skipped := by
    rw [start, List.append_assoc, List.take_left]
  have rest : (skipped ++ inner ++ behind).drop found.start = inner ++ behind := by
    rw [start, List.append_assoc, List.drop_left]
  have part : slice (skipped ++ inner ++ behind) found.start found.stop = inner := by
    rw [slice, front, start, List.drop_left]
  unfold StandsAlone at alone
  simp only [front, back, before, rest, part] at alone
  have along : Alongside program skipped.length (inner ++ behind) whole .first :=
    ⟨position.trans (Nat.zero_add _).symm, begins.best, begins.dead⟩
  have here : program.successors whole.before (inner ++ behind).head? =
      program.successors none inner.head? := by
    rw [previous]
    exact successors_congr fun condition member => (alone condition member).1
  have last (more : inner ≠ []) : program.successors inner.getLast? behind.head? =
      program.successors inner.getLast? none := by
    have ends : (skipped ++ inner).getLast? = inner.getLast? :=
      List.getLast?_append_of_ne_nil skipped more
    exact successors_congr fun condition member => ends ▸ (alone condition member).2
  rw [part, start, Scan.search_eq_result]
  exact along.result here last begins.result (by rw [stop, position])

end Program

end Gleaner.Regex
