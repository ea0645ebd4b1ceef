import Gleaner.Regex.Syntax

/-!
# Footprints

A pattern whose automata would take too much memory is refused.  What counts are two automata over
the bytes of UTF-8: one that reads a text forwards, and one that reads it backwards.  In both a
state takes 32 bytes, and its ways out take more where it has several.
-/

namespace Gleaner.Regex

/-- The bytes that the two automata of an expression take. -/
structure Footprint where
  /-- The bytes of the automaton that reads forwards. -/
  forward : Nat
  /-- The bytes of the automaton that reads backwards. -/
  backward : Nat
  deriving DecidableEq, Repr

namespace Footprint

/-- As many bytes in both automata. -/
def both (bytes : Nat) : Footprint :=
  ⟨bytes, bytes⟩

/-- The footprint of two expressions that do not share states. -/
def add (left right : Footprint) : Footprint :=
  ⟨left.forward + right.forward, left.backward + right.backward⟩

/-- The footprint of a number of copies. -/
def times (count : Nat) (footprint : Footprint) : Footprint :=
  ⟨count * footprint.forward, count * footprint.backward⟩

end Footprint

/-- The bytes of a state. -/
def stateBytes : Nat := 32

/-! ## Encoded sets -/

/-- A range of numbers by its first and last one. -/
abbrev Span := Nat × Nat

/-- The maximal ranges of members among so many code points from one on; `start?` is where a range
began that is still open. -/
def spansFrom (set : CodeSet) : Nat → Nat → Option Nat → List Span
  | 0, code, start? => (start?.map fun start => (start, code - 1)).toList
  | count + 1, code, start? =>
      match set code, start? with
      | true, some start => spansFrom set count (code + 1) (some start)
      | true, none => spansFrom set count (code + 1) (some code)
      | false, some start => (start, code - 1) :: spansFrom set count (code + 1) none
      | false, none => spansFrom set count (code + 1) none

/-- The maximal ranges of the characters in a set. -/
def spansOf (set : CodeSet) : List Span :=
  spansFrom set 0xD800 0 none ++ spansFrom set 0x102000 0xE000 none

/-- The parts of a range whose characters have encodings of one length. -/
def byLength (span : Span) : List Span :=
  [(0, 0x7F), (0x80, 0x7FF), (0x800, 0xFFFF), (0x10000, 0x10FFFF)].filterMap fun (first, last) =>
    let part := (max first span.1, min last span.2)
    if part.1 ≤ part.2 then some part else none

/-- The parts of a range that begin and end with whole blocks wherever they go beyond one, for
blocks of the given size and, on so many levels, of the larger ones of which each has 64 of the
smaller. -/
def byBlock : Nat → Nat → Span → List Span
  | 0, _, span => [span]
  | levels + 1, block, (first, last) =>
      if first / block == last / block then [(first, last)]
      else
        let inner := (first + block - 1) / block * block
        let outer := (last + 1) / block * block
        (if first < inner then [(first, inner - 1)] else []) ++
          (if inner < outer then byBlock levels (block * 64) (inner, outer - 1) else []) ++
          (if outer ≤ last then [(outer, last)] else [])

/-- The bytes of an encoded character. -/
def encoded (code : Nat) : List Nat :=
  (String.utf8EncodeChar (Char.ofNat code)).map UInt8.toNat

/-- Encodings of the same length: each byte is from the range at its place. -/
abbrev Encodings := List Span

/-- The encodings of a range.  Characters of ASCII take one byte, so their ranges are not cut into
blocks. -/
def encodingsOf (span : Span) : List Encodings :=
  (byLength span).flatMap fun part =>
    (byBlock (if part.2 < 0x80 then 0 else 3) 64 part).map fun (first, last) =>
      (encoded first).zip (encoded last)

/-! ## Automata of sets -/

/-- A state by its ways out, each for a range of bytes; state 0 is the end. -/
abbrev Branches := List (Span × Nat)

/-- The number of a state, which is new unless one like it is there. -/
def intern (branches : Branches) (states : Array Branches) : Nat × Array Branches :=
  match states.findIdx? (· == branches) with
  | some index => (index + 1, states)
  | none => (states.size + 1, states.push branches)

/-- The state from which encodings of a length at most are read, where equal states are one. -/
def forwardState : Nat → List Encodings → Array Branches → Nat × Array Branches
  | 0, _, states => (0, states)
  | length + 1, encodings, states =>
      let groups := encodings.splitBy fun left right => left.head? == right.head?
      let (branches, states) := groups.foldl (fun (branches, states) group =>
        match group.head?.bind List.head? with
        | none => (branches, states)
        | some span =>
            let (next, states) := forwardState length (group.map (·.drop 1)) states
            ((span, next) :: branches, states)) ([], states)
      if branches.isEmpty then (0, states) else intern branches.reverse states

/-- The bytes of the automaton that reads encodings forwards: a way out takes eight bytes. -/
def forwardBytes (encodings : List Encodings) : Nat :=
  (forwardState 4 encodings #[]).2.foldl (fun bytes branches =>
    bytes + stateBytes + 8 * branches.length) stateBytes

/-- Number of ranges that two encodings share at their beginning. -/
def sharedLength (left right : Encodings) : Nat :=
  ((left.zip right).takeWhile fun (one, other) => one == other).length

/-- The bytes of the automaton that reads encodings backwards: a state for each range, where equal
beginnings are one, and a fork, whose ways out take four bytes each. -/
def backwardBytes (encodings : List Encodings) : Nat :=
  (encodings.foldl (fun (bytes, previous) encoding =>
    let fresh := encoding.length - sharedLength previous encoding
    (bytes + 4 + stateBytes * fresh, encoding)) (2 * stateBytes, [])).1

/-- The footprint of a set: for one character a state for each byte, for a set of ASCII a single
state with its ways out. -/
def setFootprint (set : CodeSet) : Footprint :=
  let spans := spansOf set
  let encodings := spans.flatMap encodingsOf
  match spans.find? fun span => spans.length == 1 && span.1 == span.2 with
  | some (only, _) => .both (stateBytes * (encoded only).length)
  | none =>
      if spans.all fun span => span.2 < 0x80 then .both (2 * stateBytes + 8 * spans.length)
      else ⟨forwardBytes encodings, backwardBytes encodings⟩

/-- A bound for sets of all kinds. -/
def setBound : Nat := 131072

/-- A bound for what one character stands for, itself or together with those that differ from it
only in case. -/
def charBound (folds : Bool) (code : Nat) : Nat :=
  if folds then 600 else stateBytes * (Char.ofNat code).utf8Size

/-! ## Automata of expressions -/

namespace Expr

/-- The set of characters that the expression is a choice of, if it is no more than that. -/
def members? : Expr → Option CodeSet
  | set members _ => some members
  | group .plain body => body.members?
  | alt left right => do return (← left.members?).union (← right.members?)
  | _ => none

/-- The footprint of a repetition, by its effective bounds and the footprint of its body. -/
def repeatedFootprint (nullable : Bool) (body : Footprint) : Nat → Option Nat → Footprint
  | _, some 0 => .both 0
  | 0, some 1 => body.add (.both 72)
  | 0, none => body.add (.both (if nullable then 112 else 40))
  | least, none => (body.times least).add (.both 40)
  | least, some most =>
      let optional := ((body.add (.both 40)).times (most - least)).add (.both stateBytes)
      if least == most then body.times least
      else if least == 0 then optional.add (.both stateBytes)
      else (body.times least).add optional

/-- The footprint of the expression. -/
def footprint : Expr → Footprint
  | empty => .both stateBytes
  | set members _ => setFootprint members
  | look _ => .both stateBytes
  | group role body =>
      if role = .plain then body.footprint else body.footprint.add ⟨2 * stateBytes, 0⟩
  | repeated least most _ body =>
      let (least, most) := effectiveBounds least most body
      repeatedFootprint body.nullable body.footprint least most
  | seq empty right => right.footprint
  | seq left empty => left.footprint
  | seq left right => left.footprint.add right.footprint
  | alt left right =>
      match (alt left right).members? with
      | some members => setFootprint members
      | none =>
          let more := match right with
            | alt _ _ => 4
            | _ => 2 * stateBytes + 8
          (left.footprint.add right.footprint).add (.both more)

/-- A bound on the footprint that does not look into sets. -/
def bound : Expr → Nat
  | empty => stateBytes
  | set _ bound => bound
  | look _ => stateBytes
  | group _ body => body.bound + 2 * stateBytes
  | repeated least most _ body =>
      let copies := most.getD least + 1
      copies * (body.bound + 40) + 4 * stateBytes
  | seq left right => left.bound + right.bound
  | alt left right => left.bound + right.bound + 2 * stateBytes + 8

/-- Greatest number of bytes that an automaton may take. -/
def maxBytes : Nat := 10485760

/-- The automata of the expression are small enough, together with the states around it that find
where a match begins and ends. -/
def fits (expr : Expr) : Bool :=
  expr.bound ≤ maxBytes ||
    (expr.footprint.forward + 208 ≤ maxBytes && expr.footprint.backward + 144 ≤ maxBytes)

end Expr

end Gleaner.Regex
