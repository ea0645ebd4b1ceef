import Gleaner.Regex.Search
import Mathlib.Data.Set.Insert

/-!
# Threads that wait at a place

Which threads wait at a place, without a bound on the turns: a thread goes on until it waits for a
character or has accepted, and it is dropped where a preferred one has been.  Threads that lead to
no match take no part in this, so that the first of the others is the first that waits.
-/

namespace Gleaner.Regex

/-! ## One turn -/

/-- The instructions that an instruction leads on to between two characters, in the order of
preference; `none` if a thread waits there. -/
def Program.successors (program : Program) (before after : Option Char) (here : Nat) :
    Option (List Nat) :=
  match program.code[here]? with
  | none => some []
  | some (.take _ _) => none
  | some .accept => none
  | some (.fork first second) => some [first, second]
  | some (.check condition next) => some (if condition.holds before after then [next] else [])
  | some (.groupStart next) => some [next]
  | some (.groupEnd next) => some [next]

/-- What a thread has passed when it leaves its instruction at a position. -/
def Program.passing (program : Program) (position : Nat) (thread : Thread) : Trail :=
  match program.code[thread.at_]? with
  | some (.groupStart _) => { thread.trail with groupStart := some position }
  | some (.groupEnd _) => { thread.trail with groupEnd := some position }
  | _ => thread.trail

/-- The threads at the given instructions that have passed the same. -/
def threadsAt (places : List Nat) (trail : Trail) : List Thread :=
  places.map fun place => { at_ := place, trail }

section

variable {program : Program} {place : Place} {thread : Thread}

private theorem Program.passing_start (position : Nat) :
    (program.passing position thread).start = thread.trail.start := by
  unfold passing
  split <;> rfl

private theorem Program.successors_length_le {before after : Option Char} {here : Nat}
    {places : List Nat} (leads : program.successors before after here = some places) :
    places.length ≤ 2 := by
  unfold successors at leads
  split at leads <;> cases leads <;> try simp
  split <;> simp

private theorem Program.follow_cons (fuel : Nat) (stack : List Thread) (seen : Array Bool)
    (waiting : List Thread) :
    program.follow place (fuel + 1) (thread :: stack) seen waiting =
      if seen.getD thread.at_ true then program.follow place fuel stack seen waiting
      else match program.successors place.before place.after thread.at_ with
        | none =>
            program.follow place fuel stack (seen.setIfInBounds thread.at_ true)
              (thread :: waiting)
        | some places =>
            program.follow place fuel
              (threadsAt places (program.passing place.position thread) ++ stack)
              (seen.setIfInBounds thread.at_ true) waiting := by
  rw [follow]
  split
  · rfl
  · unfold successors passing
    cases program.code[thread.at_]? with
    | none => rfl
    | some instr =>
        cases instr with
        | check condition next =>
            by_cases holds : condition.holds place.before place.after <;> simp [holds, threadsAt]
        | _ => rfl

end

/-! ## All turns -/

/-- The threads on a stack come to wait in this order, if each leads on as `next` and `trail` say
and the instructions of `seen` have been reached before. -/
inductive Arrives (next : Nat → Option (List Nat)) (trail : Thread → Trail) :
    List Thread → Set Nat → List Thread → Prop
  | nil {seen} : Arrives next trail [] seen []
  | late {thread stack seen waiting} (reached : thread.at_ ∈ seen)
      (rest : Arrives next trail stack seen waiting) :
      Arrives next trail (thread :: stack) seen waiting
  | waits {thread stack seen waiting} (fresh : thread.at_ ∉ seen) (stays : next thread.at_ = none)
      (rest : Arrives next trail stack (insert thread.at_ seen) waiting) :
      Arrives next trail (thread :: stack) seen (thread :: waiting)
  | goes {thread stack seen waiting places} (fresh : thread.at_ ∉ seen)
      (leads : next thread.at_ = some places)
      (rest : Arrives next trail (threadsAt places (trail thread) ++ stack)
        (insert thread.at_ seen) waiting) :
      Arrives next trail (thread :: stack) seen waiting

section

variable {program : Program} {place : Place}

private theorem mark_getD {seen : Array Bool} {here : Nat} (fresh : seen.getD here true = false) :
    {other | (seen.setIfInBounds here true).getD other true = true} =
        insert here {other | seen.getD other true = true} ∧
      (seen.setIfInBounds here true).count false + 1 = seen.count false := by
  have inside : here < seen.size := by
    by_contra beyond
    simp [Array.getD, beyond] at fresh
  have unmarked : seen[here] = false := by simpa [Array.getD, inside] using fresh
  constructor
  · ext other
    by_cases same : here = other
    · subst same
      simp [Array.getD_eq_getD_getElem?, Array.getElem?_setIfInBounds, inside]
    · simp [Array.getD_eq_getD_getElem?, Array.getElem?_setIfInBounds, same, Ne.symm same]
  · have positive : 0 < seen.count false :=
      Array.count_pos_iff.mpr (unmarked ▸ Array.getElem_mem inside)
    rw [Array.setIfInBounds, dif_pos inside, Array.count_set, unmarked]
    simp
    omega

/-- With enough turns for all instructions that have not been reached, every thread arrives. -/
private theorem Program.exists_arrives_follow (program : Program) (place : Place) (fuel : Nat)
    (stack : List Thread) (seen : Array Bool) (waiting : List Thread)
    (enough : 2 * seen.count false + stack.length < fuel) :
    ∃ arrived, Arrives (program.successors place.before place.after)
        (program.passing place.position) stack {here | seen.getD here true = true} arrived ∧
      (program.follow place fuel stack seen waiting).1 = arrived.reverse ++ waiting := by
  induction fuel generalizing stack seen waiting with
  | zero => contradiction
  | succ fuel ih =>
      cases stack with
      | nil => exact ⟨[], .nil, by simp [follow]⟩
      | cons thread stack =>
          rw [List.length_cons] at enough
          rw [follow_cons]
          cases reached : seen.getD thread.at_ true with
          | true =>
              obtain ⟨arrived, rest, same⟩ := ih stack seen waiting (by omega)
              exact ⟨arrived, .late reached rest, same⟩
          | false =>
              obtain ⟨marked, fewer⟩ := mark_getD reached
              have fresh : thread.at_ ∉ {here | seen.getD here true = true} :=
                Bool.eq_false_iff.mp reached
              cases leads : program.successors place.before place.after thread.at_ with
              | none =>
                  obtain ⟨arrived, rest, same⟩ := ih stack (seen.setIfInBounds thread.at_ true)
                    (thread :: waiting) (by omega)
                  rw [marked] at rest
                  exact ⟨thread :: arrived, .waits fresh leads rest, by simpa using same⟩
              | some places =>
                  have few := successors_length_le leads
                  obtain ⟨arrived, rest, same⟩ :=
                    ih (threadsAt places (program.passing place.position thread) ++ stack)
                      (seen.setIfInBounds thread.at_ true) waiting
                      (by simp only [threadsAt, List.length_append, List.length_map]; omega)
                  rw [marked] at rest
                  exact ⟨arrived, .goes fresh leads rest, same⟩

theorem Program.arrives_arrive (program : Program) (place : Place) (threads : List Thread) :
    Arrives (program.successors place.before place.after) (program.passing place.position) threads
      {here | program.code.size ≤ here} (program.arrive place threads) := by
  have enough : 2 * (Array.replicate program.code.size false).count false + threads.length <
      2 * (program.code.size + threads.length) + 1 := by
    simp only [Array.count_replicate_self]
    omega
  obtain ⟨arrived, arrives, same⟩ :=
    program.exists_arrives_follow place _ threads _ [] enough
  have unreached : {here | (Array.replicate program.code.size false).getD here true = true} =
      {here | program.code.size ≤ here} := by
    ext here
    simp [Array.getD]
  rw [unreached] at arrives
  have all : program.arrive place threads = arrived := by
    rw [arrive, same, List.append_nil, List.reverse_reverse]
  rwa [all]

end

namespace Arrives

variable {next : Nat → Option (List Nat)} {trail : Thread → Trail} {stack waiting : List Thread}
  {seen : Set Nat}

theorem unique {other : List Thread} (arrives : Arrives next trail stack seen waiting)
    (again : Arrives next trail stack seen other) : waiting = other := by
  induction arrives generalizing other with
  | nil => cases again; rfl
  | late reached rest ih =>
      cases again with
      | late _ more => exact ih more
      | waits fresh => contradiction
      | goes fresh => contradiction
  | waits fresh stays rest ih =>
      cases again with
      | late reached => contradiction
      | waits _ _ more => exact congrArg _ (ih more)
      | goes _ leads => simp [stays] at leads
  | goes fresh leads rest ih =>
      cases again with
      | late reached => contradiction
      | waits _ stays => simp [stays] at leads
      | goes _ same more =>
          obtain rfl := Option.some.inj (leads.symm.trans same)
          exact ih more

private theorem eq_nil (arrives : Arrives next trail [] seen waiting) : waiting = [] := by
  cases arrives
  rfl

private theorem stays_of_mem (arrives : Arrives next trail stack seen waiting) {thread : Thread}
    (mem : thread ∈ waiting) : next thread.at_ = none := by
  induction arrives with
  | nil => contradiction
  | late _ _ ih => exact ih mem
  | waits _ stays _ ih =>
      rcases List.mem_cons.mp mem with rfl | mem
      · exact stays
      · exact ih mem
  | goes _ _ _ ih => exact ih mem

/-- What holds of the trails on the stack, and still does after one more instruction, holds of those
that wait. -/
theorem forall_mem {P : Trail → Prop} (kept : ∀ thread : Thread, P thread.trail → P (trail thread))
    (arrives : Arrives next trail stack seen waiting) (all : ∀ thread ∈ stack, P thread.trail) :
    ∀ thread ∈ waiting, P thread.trail := by
  induction arrives with
  | nil => exact all
  | late _ _ ih => exact ih (List.forall_mem_cons.mp all).2
  | waits _ _ _ ih =>
      obtain ⟨first, others⟩ := List.forall_mem_cons.mp all
      exact List.forall_mem_cons.mpr ⟨first, ih others⟩
  | goes _ _ _ ih =>
      obtain ⟨first, others⟩ := List.forall_mem_cons.mp all
      refine ih (List.forall_mem_append.mpr ⟨fun branch among => ?_, others⟩)
      obtain ⟨place, -, rfl⟩ := List.mem_map.mp among
      exact kept _ first

/-- Threads that have passed something else arrive alike. -/
theorem map {change : Trail → Trail} {trail' : Thread → Trail}
    (natural : ∀ thread : Thread,
      trail' { thread with trail := change thread.trail } = change (trail thread))
    (arrives : Arrives next trail stack seen waiting) :
    Arrives next trail' (stack.map fun thread => { thread with trail := change thread.trail }) seen
      (waiting.map fun thread => { thread with trail := change thread.trail }) := by
  induction arrives with
  | nil => exact .nil
  | late reached _ ih => exact .late reached ih
  | waits fresh stays _ ih => exact .waits fresh stays ih
  | @goes thread stack seen waiting places fresh leads _ ih =>
      refine .goes fresh leads ?_
      rw [natural]
      simpa [threadsAt, Function.comp_def] using ih

/-- Threads at instructions that lead only to one another can be left out from the start. -/
theorem filter (live : Nat → Bool)
    (closed : ∀ here places, next here = some places → live here = false →
      ∀ other ∈ places, live other = false)
    (arrives : Arrives next trail stack seen waiting) :
    Arrives (fun here => (next here).map (List.filter live)) trail
      (stack.filter (live ·.at_)) (seen ∩ {here | live here = true})
      (waiting.filter (live ·.at_)) := by
  induction arrives with
  | nil => exact .nil
  | @late thread stack seen waiting reached _ ih =>
      cases alive : live thread.at_ with
      | true =>
          rw [List.filter_cons_of_pos (by exact alive)]
          exact .late ⟨reached, alive⟩ ih
      | false => rwa [List.filter_cons_of_neg (by simp [alive])]
  | @waits thread stack seen waiting fresh stays _ ih =>
      cases alive : live thread.at_ with
      | true =>
          rw [Set.insert_inter_of_mem (by exact alive)] at ih
          rw [List.filter_cons_of_pos (by exact alive), List.filter_cons_of_pos (by exact alive)]
          exact .waits (fun reached => fresh reached.1) (by simp [stays]) ih
      | false =>
          rw [Set.insert_inter_of_notMem (by simp [alive])] at ih
          rwa [List.filter_cons_of_neg (by simp [alive]), List.filter_cons_of_neg (by simp [alive])]
  | @goes thread stack seen waiting places fresh leads _ ih =>
      rw [List.filter_append] at ih
      cases alive : live thread.at_ with
      | true =>
          rw [Set.insert_inter_of_mem (by exact alive)] at ih
          rw [List.filter_cons_of_pos (by exact alive)]
          refine .goes (fun reached => fresh reached.1) (by rw [leads]; rfl) ?_
          simpa [threadsAt, List.filter_map, Function.comp_def] using ih
      | false =>
          rw [Set.insert_inter_of_notMem (by simp [alive])] at ih
          have none : (threadsAt places (trail thread)).filter (live ·.at_) = [] := by
            simpa [threadsAt, List.filter_eq_nil_iff] using closed thread.at_ places leads alive
          rwa [List.filter_cons_of_neg (by simp [alive]), ← List.nil_append (stack.filter _),
            ← none]

end Arrives

/-! ## The preferred thread -/

/-- From an instruction a thread can come to wait without reaching an instruction of `seen`. -/
inductive Clear (next : Nat → Option (List Nat)) (seen : Set Nat) : Nat → Prop
  | waits {here} (fresh : here ∉ seen) (stays : next here = none) : Clear next seen here
  | goes {here places other} (fresh : here ∉ seen) (leads : next here = some places)
      (among : other ∈ places) (behind : Clear next seen other) : Clear next seen here

section

variable {next : Nat → Option (List Nat)} {trail : Thread → Trail} {seen : Set Nat} {here : Nat}

theorem Clear.fresh (clear : Clear next seen here) : here ∉ seen := by
  cases clear <;> assumption

/-- A way that passes an instruction can be taken from there on, where it is not passed again. -/
theorem Clear.insert {passed : Nat} {places : List Nat} (leads : next passed = some places)
    (clear : Clear next seen here) :
    Clear next (insert passed seen) here ∨
      ∃ other ∈ places, Clear next (insert passed seen) other := by
  -- The way may come back to `passed`; what remains of it then starts at one of its successors.
  induction clear with
  | @waits here fresh stays =>
      have differ : here ≠ passed := by
        rintro rfl
        simp [stays] at leads
      exact .inl (.waits (by simp [differ, fresh]) stays)
  | @goes here nexts other fresh goesOn among _ ih =>
      rcases ih with behind | behind
      · by_cases same : here = passed
        · subst same
          obtain rfl := Option.some.inj (leads.symm.trans goesOn)
          exact .inr ⟨other, among, behind⟩
        · exact .inl (.goes (by simp [same, fresh]) goesOn among behind)
      · exact .inr behind

/-- The first thread that waits started where the first threads on the stack did, if one of these
can come to wait. -/
theorem Arrives.exists_first {stack waiting : List Thread} {start : Nat}
    (kept : ∀ thread, (trail thread).start = thread.trail.start)
    (arrives : Arrives next trail stack seen waiting) {front back : List Thread}
    (parts : stack = front ++ back) (same : ∀ thread ∈ front, thread.trail.start = start)
    (clear : ∃ thread ∈ front, Clear next seen thread.at_) :
    ∃ first others, waiting = first :: others ∧ first.trail.start = start := by
  induction arrives generalizing front with
  | nil =>
      obtain ⟨thread, mem, -⟩ := clear
      simp [(List.append_eq_nil_iff.mp parts.symm).1] at mem
  | @late thread stack seen waiting reached _ ih =>
      obtain ⟨other, mem, way⟩ := clear
      cases front with
      | nil => contradiction
      | cons head front =>
          obtain ⟨rfl, rfl⟩ := List.cons.inj parts
          rcases List.mem_cons.mp mem with rfl | behind
          · exact absurd reached way.fresh
          · exact ih rfl (fun thread mem => same thread (.tail _ mem)) ⟨other, behind, way⟩
  | @waits thread stack seen waiting fresh _ _ _ =>
      obtain ⟨other, mem, -⟩ := clear
      cases front with
      | nil => contradiction
      | cons head front =>
          obtain ⟨rfl, rfl⟩ := List.cons.inj parts
          exact ⟨thread, waiting, rfl, same thread (.head _)⟩
  | @goes thread stack seen waiting places fresh leads _ ih =>
      obtain ⟨other, mem, way⟩ := clear
      cases front with
      | nil => contradiction
      | cons head front =>
          obtain ⟨rfl, rfl⟩ := List.cons.inj parts
          refine ih (List.append_assoc _ _ _).symm (List.forall_mem_append.mpr ⟨?_, ?_⟩) ?_
          · intro branch among
            obtain ⟨place, -, rfl⟩ := List.mem_map.mp among
            exact (kept thread).trans (same thread (.head _))
          · exact fun branch among => same branch (.tail _ among)
          · rcases way.insert leads with way | ⟨place, among, way⟩
            · rcases List.mem_cons.mp mem with rfl | behind
              · exact absurd (Set.mem_insert _ _) way.fresh
              · exact ⟨other, List.mem_append_right _ behind, way⟩
            · exact ⟨_, List.mem_append_left _ (List.mem_map.mpr ⟨place, among, rfl⟩), way⟩

end

/-! ## Threads that lead to a match -/

/-- From an instruction on, the program accepts what a text starts with. -/
inductive Program.Leads (program : Program) : Option Char → List Char → Nat → Prop
  | accept {before text here} (ends : program.code[here]? = some .accept) :
      Leads program before text here
  | take {before c text here members next} (takes : program.code[here]? = some (.take members next))
      (member : members c.toNat = true) (behind : Leads program (some c) text next) :
      Leads program before (c :: text) here
  | goes {before text here places other}
      (leads : program.successors before text.head? here = some places) (among : other ∈ places)
      (behind : Leads program before text other) : Leads program before text here

namespace Program

open Classical in
/-- From an instruction on, the program accepts what a text starts with. -/
noncomputable def live (program : Program) (before : Option Char) (text : List Char)
    (here : Nat) : Bool :=
  decide (program.Leads before text here)

/-- Those of the threads that lead to a match. -/
noncomputable def leading (program : Program) (before : Option Char) (text : List Char)
    (threads : List Thread) : List Thread :=
  threads.filter (program.live before text ·.at_)

/-- The instructions that an instruction leads on to, without those from which nothing is
accepted. -/
noncomputable def liveSuccessors (program : Program) (before : Option Char) (text : List Char)
    (here : Nat) : Option (List Nat) :=
  (program.successors before text.head? here).map (List.filter (program.live before text))

section

variable {program : Program} {before : Option Char} {text : List Char} {here : Nat}
  {place : Place} {threads : List Thread}

theorem live_eq_true_iff :
    program.live before text here = true ↔ program.Leads before text here := by
  simp [live]

private theorem Leads.lt_size (leads : program.Leads before text here) :
    here < program.code.size := by
  by_contra beyond
  have nothing : program.code[here]? = none := Array.getElem?_eq_none (by omega)
  cases leads with
  | accept ends => simp [nothing] at ends
  | take takes => simp [nothing] at takes
  | goes leads among =>
      obtain rfl : _ = [] := by simpa [successors, nothing, eq_comm] using leads
      contradiction

theorem Leads.clear (leads : program.Leads before text here) :
    Clear (program.liveSuccessors before text) ∅ here := by
  induction leads with
  | accept ends => exact .waits (Set.notMem_empty _) (by simp [liveSuccessors, successors, ends])
  | take takes => exact .waits (Set.notMem_empty _) (by simp [liveSuccessors, successors, takes])
  | goes leads among behind ih =>
      refine .goes (Set.notMem_empty _) (by rw [liveSuccessors, leads]; rfl) ?_ ih
      exact List.mem_filter.mpr ⟨among, live_eq_true_iff.mpr behind⟩

/-- A thread that waits and leads to a match has accepted or takes the next character. -/
theorem Leads.of_stays (leads : program.Leads before text here)
    (stays : program.successors before text.head? here = none) :
    program.code[here]? = some .accept ∨ ∃ c rest members next, text = c :: rest ∧
      program.code[here]? = some (.take members next) ∧ members c.toNat = true ∧
      program.Leads (some c) rest next := by
  cases leads with
  | accept ends => exact .inl ends
  | take takes member behind => exact .inr ⟨_, _, _, _, rfl, takes, member, behind⟩
  | goes leads => simp [stays] at leads

/-- The threads that lead to a match arrive as if there were no others, also at a place where the
program goes on as it does here. -/
theorem arrives_leading (place : Place)
    (same : program.successors place.before place.after = program.successors before text.head?)
    (threads : List Thread) :
    Arrives (program.liveSuccessors before text) (program.passing place.position)
      (program.leading before text threads) ∅
      (program.leading before text (program.arrive place threads)) := by
  have arrives := program.arrives_arrive place threads
  rw [same] at arrives
  have closed : ∀ here places, program.successors before text.head? here = some places →
      program.live before text here = false →
      ∀ other ∈ places, program.live before text other = false := by
    intro here places leads dead other among
    by_contra alive
    have behind := live_eq_true_iff.mp (Bool.not_eq_false _ ▸ alive)
    have lives := live_eq_true_iff.mpr (Leads.goes leads among behind)
    simp [dead] at lives
  -- Nothing leads to a match from outside the program, so no thread was dropped there.
  have inside : {here | program.code.size ≤ here} ∩ {here | program.live before text here = true} =
      ∅ :=
    Set.eq_empty_iff_forall_notMem.mpr fun here ⟨beyond, alive⟩ =>
      absurd (live_eq_true_iff.mp alive).lt_size (Nat.not_lt_of_le beyond)
  have filtered := arrives.filter (program.live before text) closed
  rwa [inside] at filtered

theorem leading_arrive_eq_nil (place : Place)
    (same : program.successors place.before place.after = program.successors before text.head?)
    (none : program.leading before text threads = []) :
    program.leading before text (program.arrive place threads) = [] := by
  have arrives := arrives_leading place same threads
  rw [none] at arrives
  exact arrives.eq_nil

/-- Of the threads that lead to a match, the first that waits comes from the first that arrives. -/
theorem exists_leading_arrive (place : Place)
    (same : program.successors place.before place.after = program.successors before text.head?)
    {first : Thread} {others : List Thread}
    (leads : program.leading before text threads = first :: others) :
    ∃ thread behind,
      program.leading before text (program.arrive place threads) = thread :: behind ∧
        thread.trail.start = first.trail.start ∧ program.Leads before text thread.at_ ∧
        program.successors before text.head? thread.at_ = none := by
  have arrives := arrives_leading place same threads
  rw [leads] at arrives
  have alive : program.Leads before text first.at_ := by
    have mem : first ∈ program.leading before text threads := leads ▸ List.mem_cons_self
    exact live_eq_true_iff.mp (List.mem_filter.mp mem).2
  have alone : ∀ thread ∈ [first], thread.trail.start = first.trail.start := by simp
  obtain ⟨thread, behind, waiting, start⟩ :=
    arrives.exists_first (fun _ => passing_start place.position) rfl alone
      ⟨first, List.mem_singleton_self first, alive.clear⟩
  have mem : thread ∈ program.leading before text (program.arrive place threads) :=
    waiting ▸ List.mem_cons_self
  refine ⟨thread, behind, waiting, start, live_eq_true_iff.mp (List.mem_filter.mp mem).2, ?_⟩
  simpa [liveSuccessors] using arrives.stays_of_mem mem

end

end Program

end Gleaner.Regex
