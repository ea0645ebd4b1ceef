import Gleaner.Regex.Syntax

/-!
# Automata of expressions

An expression becomes a list of instructions that refer to one another by number.  A fork
prefers its first branch, so the order in which branches are tried is the order in which the
expression prefers its matches.
-/

namespace Gleaner.Regex

/-- One instruction. -/
inductive Instr where
  /-- Takes a character of the set. -/
  | take (members : CodeSet) (next : Nat)
  /-- Goes on in two ways, preferably the first. -/
  | fork (first second : Nat)
  /-- Goes on if the condition holds. -/
  | check (condition : Look) (next : Nat)
  /-- The first group starts here. -/
  | groupStart (next : Nat)
  /-- The first group ends here. -/
  | groupEnd (next : Nat)
  /-- The expression has matched. -/
  | accept

/-- Instructions, numbered from zero. -/
abbrev Code := Array Instr

namespace Code

/-- A fork that enters the body or leaves, in the order of preference. -/
def choose (greedy : Bool) (enter leave : Nat) : Instr :=
  if greedy then .fork enter leave else .fork leave enter

/-- Emits `count` copies of a body one after the other, the last one leading to `next`; gives
where they start. -/
def emitCopies (emitBody : Nat → Code → Nat × Code) : Nat → Nat → Code → Nat × Code
  | 0, next, code => (next, code)
  | count + 1, next, code =>
      let (entry, code) := emitBody next code
      emitCopies emitBody count entry code

/-- Emits `count` optional copies of a body in front of `rest`, each reached only through those
before it; skipping any of them leads to `leave`. -/
def emitOptional (emitBody : Nat → Code → Nat × Code) (greedy : Bool) (leave : Nat) :
    Nat → Nat → Code → Nat × Code
  | 0, rest, code => (rest, code)
  | count + 1, rest, code =>
      let (entry, code) := emitBody rest code
      emitOptional emitBody greedy leave count code.size (code.push (choose greedy entry leave))

/-- Emits a body that is repeated at least once: after each pass a fork chooses between another
pass and leaving.  Gives where the body starts, and the fork. -/
def emitPlus (emitBody : Nat → Code → Nat × Code) (greedy : Bool) (next : Nat) (code : Code) :
    Nat × Nat × Code :=
  let loop := code.size
  let (entry, code) := emitBody loop (code.push .accept)
  (entry, loop, code.setIfInBounds loop (choose greedy entry next))

/-- Emits a body that is repeated any number of times.  A body that can match nothing is entered
at most once without progress, so it is emitted as an optional repetition from one on. -/
def emitStar (emitBody : Nat → Code → Nat × Code) (nullable greedy : Bool) (next : Nat)
    (code : Code) : Nat × Code :=
  let (entry, loop, code) := emitPlus emitBody greedy next code
  if nullable then (code.size, code.push (choose greedy entry next)) else (loop, code)

end Code

/-- Emits the instructions of an expression that go on at `next`; gives where they start. -/
def Expr.emit : Expr → Nat → Code → Nat × Code
  | empty, next, code => (next, code)
  | set members _, next, code => (code.size, code.push (.take members next))
  | look condition, next, code => (code.size, code.push (.check condition next))
  | group role body, next, code =>
      if role = .first then
        let (entry, code) := body.emit code.size (code.push (.groupEnd next))
        (code.size, code.push (.groupStart entry))
      else
        body.emit next code
  | repeated least most greedy body, next, code =>
      let (least, most) := effectiveBounds least most body
      match most with
      | some most =>
          let (entry, code) :=
            Code.emitOptional body.emit greedy next (most - least) next code
          Code.emitCopies body.emit least entry code
      | none =>
          match least with
          | 0 => Code.emitStar body.emit body.nullable greedy next code
          | more + 1 =>
              let (entry, _, code) := Code.emitPlus body.emit greedy next code
              Code.emitCopies body.emit more entry code
  | seq left right, next, code =>
      let (entry, code) := right.emit next code
      left.emit entry code
  | alt left right, next, code =>
      let (second, code) := right.emit next code
      let (first, code) := left.emit next code
      (code.size, code.push (.fork first second))

/-- The automaton of an expression. -/
structure Program where
  /-- Its instructions. -/
  code : Code
  /-- The number of the first one. -/
  start : Nat

/-- The automaton of an expression; its first instruction accepts. -/
def Expr.compile (expr : Expr) : Program :=
  let (start, code) := expr.emit 0 #[.accept]
  { code, start }

end Gleaner.Regex
