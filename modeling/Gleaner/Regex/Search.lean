import Gleaner.Regex.Program

/-!
# Searching with automata

All ways to match advance together, one character at a time, as a list of threads in the order
of preference.  A thread that arrives where a preferred thread has been is dropped, so the list
never grows beyond the number of instructions, and the first thread to accept is the match.
-/

namespace Gleaner.Regex

/-- The places that a match in progress has passed, counted in characters. -/
structure Trail where
  /-- Where the match started. -/
  start : Nat
  /-- Where the first group last started. -/
  groupStart : Option Nat := none
  /-- Where the first group last ended. -/
  groupEnd : Option Nat := none

/-- A match in progress that waits at an instruction. -/
structure Thread where
  /-- The instruction. -/
  at_ : Nat
  /-- What the match has passed. -/
  trail : Trail

/-- A place in the text: its number, and the characters around it. -/
structure Place where
  /-- Number of characters before it. -/
  position : Nat
  /-- The character before it. -/
  before : Option Char
  /-- The character after it. -/
  after : Option Char

namespace Program

/-- Follows the threads on `stack` until each waits for a character or has accepted; `seen` marks
the instructions that were reached.  Every turn either drops a thread or marks an instruction,
so twice the number of instructions and of threads bounds the turns. -/
def follow (program : Program) (place : Place) : Nat → List Thread → Array Bool → List Thread →
    List Thread × Array Bool
  | 0, _, seen, waiting => (waiting, seen)
  | _ + 1, [], seen, waiting => (waiting, seen)
  | fuel + 1, thread :: stack, seen, waiting =>
      if seen.getD thread.at_ true then follow program place fuel stack seen waiting
      else
        let seen := seen.setIfInBounds thread.at_ true
        match program.code[thread.at_]? with
        | none => follow program place fuel stack seen waiting
        | some instr =>
          match instr with
          | .take _ _ => follow program place fuel stack seen (thread :: waiting)
          | .accept => follow program place fuel stack seen (thread :: waiting)
          | .fork first second =>
              follow program place fuel
                ({ thread with at_ := first } :: { thread with at_ := second } :: stack) seen waiting
          | .check condition next =>
              if condition.holds place.before place.after then
                follow program place fuel ({ thread with at_ := next } :: stack) seen waiting
              else
                follow program place fuel stack seen waiting
          | .groupStart next =>
              let trail := { thread.trail with groupStart := some place.position }
              follow program place fuel ({ at_ := next, trail } :: stack) seen waiting
          | .groupEnd next =>
              let trail := { thread.trail with groupEnd := some place.position }
              follow program place fuel ({ at_ := next, trail } :: stack) seen waiting

/-- The threads that wait at a place, in the order of preference, when the given ones arrive
there. -/
def arrive (program : Program) (place : Place) (threads : List Thread) : List Thread :=
  let fuel := 2 * (program.code.size + threads.length) + 1
  let seen := Array.replicate program.code.size false
  (program.follow place fuel threads seen []).1.reverse

/-- The threads that take a character, up to the first one that has accepted, and the trail of
that one. -/
def step (program : Program) (c : Option Char) : List Thread → List Thread × Option Trail
  | [] => ([], none)
  | thread :: threads =>
      match program.code[thread.at_]? with
      | some .accept => ([], some thread.trail)
      | some (.take members next) =>
          let (taken, accepted) := step program c threads
          if c.any fun c => members c.toNat then
            ({ thread with at_ := next } :: taken, accepted)
          else
            (taken, accepted)
      | _ => step program c threads

end Program

/-- A match: where it starts and ends, and the same for its first group if that took part. -/
structure Found where
  /-- Number of characters before the match. -/
  start : Nat
  /-- Number of characters up to the end of the match. -/
  stop : Nat
  /-- Start and end of the first group. -/
  group : Option (Nat × Nat)

/-- The match that a trail leads to at a position. -/
def Trail.found (trail : Trail) (position : Nat) : Found where
  start := trail.start
  stop := position
  group := match trail.groupStart, trail.groupEnd with
    | some first, some last => some (first, last)
    | _, _ => none

namespace Program

/-- Advances the threads that arrive at a position through the rest of the text; `best` is the
match found so far.  As long as there is none, a new match may start at every position. -/
def advance (program : Program) (best : Option Found) (threads : List Thread) (position : Nat)
    (before : Option Char) : List Char → Option Found
  | [] =>
      let place := { position, before, after := none }
      let waiting := program.arrive place (entering threads position)
      match (program.step none waiting).2 with
      | some trail => some (trail.found position)
      | none => best
  | c :: rest =>
      let place := { position, before, after := some c }
      let waiting := program.arrive place (entering threads position)
      let (taken, accepted) := program.step (some c) waiting
      let best := match accepted with
        | some trail => some (trail.found position)
        | none => best
      if taken.isEmpty && best.isSome then best
      else advance program best taken (position + 1) (some c) rest
where
  /-- The threads, and behind them a new one if there is no match yet. -/
  entering (threads : List Thread) (position : Nat) : List Thread :=
    if best.isSome then threads
    else threads ++ [{ at_ := program.start, trail := { start := position } }]

/-- The first match in a text: of those that start first the preferred one. -/
def search (program : Program) (text : List Char) : Option Found :=
  program.advance none [] 0 none text

end Program

/-- The characters of a text from one position up to another. -/
def slice (text : List Char) (start stop : Nat) : List Char :=
  (text.take stop).drop start

/-- The text of the first group if it took part in the first match, else the whole match. -/
def Program.firstCapture (program : Program) (text : List Char) : Option (List Char) :=
  (program.search text).map fun found =>
    match found.group with
    | some (start, stop) => slice text start stop
    | none => slice text found.start found.stop

end Gleaner.Regex
