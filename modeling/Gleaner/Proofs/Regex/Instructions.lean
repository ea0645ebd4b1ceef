import Gleaner.Proofs.Regex.Alone

/-!
# Instructions of an expression

The instructions of an expression check no conditions but those in it, and remember a group only if
the first group is in it.  Without such instructions no match has a group.
-/

namespace Gleaner.Regex

/-- The conditions in an expression. -/
def Expr.looks : Expr → List Look
  | empty => []
  | set _ _ => []
  | look condition => [condition]
  | group _ body => body.looks
  | repeated _ _ _ body => body.looks
  | seq left right => left.looks ++ right.looks
  | alt left right => left.looks ++ right.looks

/-- The first group is in the expression. -/
def Expr.captures : Expr → Bool
  | empty => false
  | set _ _ => false
  | look _ => false
  | group role body => role == .first || body.captures
  | repeated _ _ _ body => body.captures
  | seq left right => left.captures || right.captures
  | alt left right => left.captures || right.captures

/-! ## Emitting instructions -/

namespace Code

/-- All instructions are such. -/
def All (P : Instr → Prop) (code : Code) : Prop :=
  ∀ instr ∈ code, P instr

/-- Only such instructions are emitted. -/
def Emits (P : Instr → Prop) (emit : Nat → Code → Nat × Code) : Prop :=
  ∀ next code, code.All P → (emit next code).2.All P

section

variable {P : Instr → Prop} {emitBody : Nat → Code → Nat × Code} {code : Code}

theorem All.push {instr : Instr} (all : code.All P) (new : P instr) : All P (code.push instr) := by
  intro other member
  rcases Array.mem_push.mp member with old | rfl
  · exact all other old
  · exact new

variable (forks : ∀ first second, P (.fork first second))

include forks

private theorem choose_of_forks (greedy : Bool) (enter leave : Nat) :
    P (choose greedy enter leave) := by
  unfold choose
  split <;> exact forks _ _

omit forks in
theorem Emits.copies (body : Emits P emitBody) (count : Nat) :
    Emits P (emitCopies emitBody count) := by
  induction count with
  | zero => exact fun _ _ all => all
  | succ count ih => exact fun next code all => ih _ _ (body next code all)

theorem Emits.optional (body : Emits P emitBody) (greedy : Bool) (leave count : Nat) :
    Emits P (emitOptional emitBody greedy leave count) := by
  induction count with
  | zero => exact fun _ _ all => all
  | succ count ih =>
      intro rest code all
      exact ih _ _ ((body rest code all).push (choose_of_forks forks greedy _ leave))

private theorem all_emitPlus (accepts : P .accept) (body : Emits P emitBody) (greedy : Bool)
    (next : Nat) (all : code.All P) : (emitPlus emitBody greedy next code).2.2.All P := by
  intro instr member
  rcases Array.mem_or_eq_of_mem_setIfInBounds member with old | rfl
  · exact body _ _ (all.push accepts) instr old
  · exact choose_of_forks forks greedy _ next

theorem Emits.star (accepts : P .accept) (body : Emits P emitBody) (nullable greedy : Bool) :
    Emits P (emitStar emitBody nullable greedy) := by
  intro next code all
  have plus := all_emitPlus forks accepts body greedy next all
  cases nullable with
  | true => exact plus.push (choose_of_forks forks greedy _ next)
  | false => exact plus

end

end Code

/-- What holds of forks and of the instructions that take characters or accept, and of those for the
conditions and the first group of an expression, holds of all that the expression emits. -/
theorem Expr.emits {P : Instr → Prop} (forks : ∀ first second, P (.fork first second))
    (accepts : P .accept) (takes : ∀ members next, P (.take members next)) (expr : Expr)
    (checks : ∀ condition ∈ expr.looks, ∀ next, P (.check condition next))
    (groups : expr.captures = true → ∀ next, P (.groupStart next) ∧ P (.groupEnd next)) :
    Code.Emits P expr.emit := by
  induction expr with
  | empty => exact fun _ _ all => all
  | set members bound => exact fun next code all => all.push (takes members next)
  | look condition =>
      exact fun next code all => all.push (checks condition (List.mem_singleton_self _) next)
  | group role body ih =>
      have inner : Code.Emits P body.emit := ih checks fun inside =>
        groups (by rw [captures, inside, Bool.or_true])
      intro next code all
      unfold emit
      split
      · next first =>
          have both := groups (by rw [captures, first]; rfl)
          exact (inner _ _ (all.push (both next).2)).push (both _).1
      · exact inner next code all
  | repeated least most greedy body ih =>
      have inner : Code.Emits P body.emit := ih checks groups
      intro next code all
      unfold emit
      dsimp only
      split
      · exact inner.copies _ _ _ (inner.optional forks greedy next _ _ _ all)
      · split
        · exact inner.star forks accepts _ greedy _ _ all
        · exact inner.copies _ _ _ (Code.all_emitPlus forks accepts inner greedy next all)
  | seq left right first second =>
      have left := first (fun condition inside => checks condition (List.mem_append_left _ inside))
        fun inside => groups (by rw [captures, inside, Bool.true_or])
      have right := second
        (fun condition inside => checks condition (List.mem_append_right _ inside))
        fun inside => groups (by rw [captures, inside, Bool.or_true])
      exact fun next code all => left _ _ (right next code all)
  | alt left right first second =>
      have left := first (fun condition inside => checks condition (List.mem_append_left _ inside))
        fun inside => groups (by rw [captures, inside, Bool.true_or])
      have right := second
        (fun condition inside => checks condition (List.mem_append_right _ inside))
        fun inside => groups (by rw [captures, inside, Bool.or_true])
      exact fun next code all => (left _ _ (right next code all)).push (forks _ _)

namespace Expr

variable {expr : Expr}

theorem all_compile {P : Instr → Prop} (forks : ∀ first second, P (.fork first second))
    (accepts : P .accept) (takes : ∀ members next, P (.take members next))
    (checks : ∀ condition ∈ expr.looks, ∀ next, P (.check condition next))
    (groups : expr.captures = true → ∀ next, P (.groupStart next) ∧ P (.groupEnd next)) :
    expr.compile.code.All P := by
  refine expr.emits forks accepts takes checks groups 0 #[.accept] fun instr member => ?_
  obtain rfl := List.mem_singleton.mp (List.mem_toArray.mp member)
  exact accepts

/-- The program of an expression checks no conditions but those in it. -/
theorem mem_looks_of_mem_conditions {condition : Look}
    (member : condition ∈ expr.compile.conditions) : condition ∈ expr.looks := by
  have all : expr.compile.code.All fun instr =>
      ∀ condition next, instr = .check condition next → condition ∈ expr.looks :=
    all_compile nofun nofun nofun (fun condition inside next => by rintro _ _ ⟨⟩; exact inside)
      fun _ _ => ⟨nofun, nofun⟩
  obtain ⟨instr, inside, same⟩ := List.mem_filterMap.mp member
  split at same
  · cases same
    exact all _ (Array.mem_toList_iff.mp inside) condition _ rfl
  · contradiction

/-- The program of an expression without the first group has no instruction for its start. -/
theorem groupStart_notMem (plain : expr.captures = false) (next : Nat) :
    .groupStart next ∉ expr.compile.code := by
  have all : expr.compile.code.All fun instr => ∀ next, instr ≠ .groupStart next :=
    all_compile nofun nofun nofun (fun _ _ _ => nofun) fun captured => by simp [plain] at captured
  exact fun member => all _ member next rfl

end Expr

/-! ## What all trails have in common -/

namespace Program

variable {program : Program} {threads : List Thread} {P : Trail → Prop}

private theorem of_accepted {trail : Trail} (all : ∀ thread ∈ threads, P thread.trail)
    (accepted : program.accepted threads = some trail) : P trail := by
  induction threads using program.threads_induction with
  | nil => contradiction
  | accepts thread threads there =>
      rw [accepted_cons there] at accepted
      cases accepted
      exact all thread List.mem_cons_self
  | takes thread threads members next there ih =>
      rw [Program.accepted, step, there] at accepted
      exact ih (List.forall_mem_cons.mp all).2 accepted
  | skips thread threads skip ih =>
      rw [Program.accepted, skip] at accepted
      exact ih (List.forall_mem_cons.mp all).2 accepted

private theorem forall_mem_step (c : Option Char) (all : ∀ thread ∈ threads, P thread.trail) :
    ∀ thread ∈ (program.step c threads).1, P thread.trail := by
  induction threads using program.threads_induction with
  | nil => exact all
  | accepts thread threads there =>
      rw [step, there]
      exact List.forall_mem_nil _
  | takes thread threads members next there ih =>
      obtain ⟨first, others⟩ := List.forall_mem_cons.mp all
      rw [step, there]
      dsimp only
      split
      · exact List.forall_mem_cons.mpr ⟨first, ih others⟩
      · exact ih others
  | skips thread threads skip ih =>
      rw [skip]
      exact ih (List.forall_mem_cons.mp all).2

end Program

/-- What all trails of a search have in common. -/
structure Scan.Common (P : Trail → Prop) (scan : Scan) : Prop where
  /-- The match found so far has such a trail. -/
  best : ∀ found ∈ scan.best, ∃ trail position, P trail ∧ found = trail.found position
  /-- The threads that arrive have such trails. -/
  threads : ∀ thread ∈ scan.threads, P thread.trail

namespace Scan.Common

variable {program : Program} {scan : Scan} {P : Trail → Prop}
  (starts : ∀ position, P { start := position })
  (kept : ∀ position thread, P thread.trail → P (program.passing position thread))

include starts kept

theorem waiting (common : scan.Common P) (after : Option Char) :
    ∀ thread ∈ scan.waiting program after, P thread.trail := by
  have arrives := program.arrives_arrive ⟨scan.position, scan.before, after⟩ (scan.entering program)
  refine arrives.forall_mem (kept scan.position) ?_
  cases best : scan.best with
  | some found =>
      rw [entering_of_best best]
      exact common.threads
  | none =>
      rw [entering_of_no_best best]
      exact List.forall_mem_append.mpr ⟨common.threads, by simpa using starts scan.position⟩

theorem found (common : scan.Common P) (after : Option Char) :
    ∀ found ∈ scan.found program after,
      ∃ trail position, P trail ∧ found = trail.found position := by
  intro found here
  rw [Scan.found] at here
  cases ends : program.accepted (scan.waiting program after) with
  | none => exact common.best found (by simpa [ends] using here)
  | some trail =>
      rw [ends] at here
      cases here
      exact ⟨trail, _, Program.of_accepted (common.waiting starts kept after) ends, rfl⟩

theorem next (common : scan.Common P) (c : Char) : (scan.next program c).Common P where
  best := common.found starts kept (some c)
  threads := Program.forall_mem_step (some c) (common.waiting starts kept (some c))

theorem result (common : scan.Common P) {text : List Char} {found : Found}
    (result : scan.result program text = some found) :
    ∃ trail position, P trail ∧ found = trail.found position := by
  induction text generalizing scan with
  | nil => exact common.found starts kept none found result
  | cons c text ih => exact ih (common.next starts kept c) result

end Scan.Common

/-- A program that never starts the first group finds matches in which it takes no part. -/
theorem Program.group_of_search {program : Program} {text : List Char} {found : Found}
    (ungrouped : ∀ next, .groupStart next ∉ program.code)
    (search : program.search text = some found) : found.group = none := by
  have kept (position : Nat) (thread : Thread) (unstarted : thread.trail.groupStart = none) :
      (program.passing position thread).groupStart = none := by
    unfold passing
    split
    · next next there => exact absurd (Array.mem_of_getElem? there) (ungrouped next)
    · exact unstarted
    · exact unstarted
  have common : Scan.first.Common (·.groupStart = none) := ⟨nofun, nofun⟩
  rw [Scan.search_eq_result] at search
  obtain ⟨trail, position, unstarted, rfl⟩ := common.result (fun _ => rfl) kept search
  rw [Trail.found, unstarted]

end Gleaner.Regex
