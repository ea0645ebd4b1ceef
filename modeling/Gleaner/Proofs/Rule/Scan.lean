import Gleaner.Proofs.Text.Slice
import Gleaner.Rule.Parser

/-!
# Scanning rules by bytes

The scanners of rules as they go over the bytes of a text: they keep offsets, read bytes at them
and cut slices between them.  A byte or a slice that is not there ends a scan at once.
-/

namespace Gleaner.Rule.Scan

open Text

/-- What a scan of a rule gives. -/
abbrev Scanned (α : Type) : Type :=
  Except (Stop RuleError) α

/-! ## Terms -/

/-- The offset of the last place where the word starts. -/
def lastOffset? (word : List Char) : List Char → Option Nat
  | [] => none
  | c :: rest =>
      match lastOffset? word rest with
      | some offset => some (c.utf8Size + offset)
      | none => if word.isPrefixOf (c :: rest) then some 0 else none

theorem lastOffset?_lt {word text : List Char} {offset : Nat}
    (found : lastOffset? word text = some offset) : offset < byteLength text := by
  induction text generalizing offset with
  | nil => simp [lastOffset?] at found
  | cons c rest ih =>
      have positive := c.utf8Size_pos
      simp only [lastOffset?] at found
      simp only [byteLength]
      split at found
      · next inner behind =>
          obtain rfl := Option.some.inj found
          have bound := ih behind
          omega
      · obtain ⟨-, same⟩ := Option.ite_none_right_eq_some.mp found
        obtain rfl := Option.some.inj same
        omega

/-- The byte in front of the offset is that of a backslash. -/
def isEscapedAt (term : List Char) (offset : Nat) : Scanned Bool :=
  if 0 < offset then (byteAt term (offset - 1)).map (· == '\\'.toUInt8) else .ok false

/-- The selector and the narrowing pattern, cut at the last open separator in front of `stop`. -/
def splitBefore (term : List Char) (stop : Nat) : Scanned (List Char × Option (List Char)) :=
  match taken : sliceTo term stop with
  | .error reason => .error reason
  | .ok part =>
      match found : lastOffset? ['#', '#'] part with
      | none => .ok (term, none)
      | some offset =>
          match isEscapedAt term offset with
          | .error reason => .error reason
          | .ok true =>
              have : offset < stop := byteLength_of_sliceTo taken ▸ lastOffset?_lt found
              splitBefore term offset
          | .ok false => do
              let body ← sliceTo term offset
              let raw ← sliceFrom term (offset + 2)
              return (body, some raw)
termination_by stop

/-- The selector of a term, and its narrowing pattern if the term has a separator. -/
def splitSanitizer (term : List Char) : Scanned (List Char × Option (List Char)) :=
  splitBefore term (byteLength term)

/-- The selector list of a body, and what is read from the elements. -/
def splitAttribute (body : List Char) : Scanned (List Char × Attribute) :=
  match lastOffset? ['@'] body with
  | none => .ok (body, .text)
  | some offset => do
      let name ← sliceFrom body (offset + 1)
      if isAttributeName name then
        return (← sliceTo body offset, Attribute.ofName (String.ofList name))
      else return (body, .text)

/-- A combinator stands outside quotes in the rest of the body, which starts at the offset. -/
def spacedBehind (body : List Char) (offset : Nat) (quote : Option Char) :
    List Char → Scanned Bool
  | [] => .ok false
  | c :: rest =>
      let next := offset + c.utf8Size
      match quote with
      | some mark => spacedBehind body next (if c == mark then none else some mark) rest
      | none =>
          if c == '\'' || c == '"' then spacedBehind body next (some c) rest
          else if c == ' ' then do
            if startsSpaced (← sliceFrom body offset) then return true
            else spacedBehind body next none rest
          else spacedBehind body next none rest

/-- A selector holds a combinator outside quotes, or ends with one that a space precedes. -/
def hasBareCombinator (body : List Char) : Scanned Bool :=
  let ending := Text.trimEnd body
  if Text.endsWith (' ' :: Combinator.and.mark) ending ||
      Text.endsWith (' ' :: Combinator.or.mark) ending then .ok true
  else spacedBehind body 0 none body

/-- The selector of a family with a body. -/
def selectorOf (kind : SelectorKind) (segment body : List Char) : Scanned Selector :=
  match kind with
  | .text | .regex => lift (Rule.selectorOf kind segment body)
  | .json => do
      if ← hasBareCombinator body then
        throw (.refused (.combinatorInBody .json (String.ofList segment)))
      let path := Text.trim body
      if path.isEmpty then throw (.refused (.emptyBody .json))
      return .json (String.ofList path)
  | .css => do
      if ← hasBareCombinator body then
        throw (.refused (.combinatorInBody .css (String.ofList segment)))
      let (selector, reading) ← splitAttribute body
      let selector := Text.trim selector
      if selector.isEmpty then throw (.refused (.emptyBody .css))
      return .css (String.ofList selector) reading

/-- The term that a segment spells. -/
def termOf (segment : List Char) : Scanned Term :=
  match splitTag? segment with
  | none => .error (.refused (.unknownTag (String.ofList segment)))
  | some (kind, text) => do
      let (body, raw) ← splitSanitizer text
      let selector ← selectorOf kind segment (unescape body)
      let sanitizer ← lift (sanitizerOf segment raw)
      return { selector, sanitizer }

/-! ## Segments -/

/-- The text is a literal that ends in a colon and is not narrowed. -/
def isLabel (segment : List Char) : Scanned Bool :=
  let tag := SelectorKind.text.tag.toList
  if tag.isPrefixOf segment then do
    match ← splitSanitizer (segment.drop tag.length) with
    | (literal, none) => return literal.getLast? == some ':' || literal.getLast? == some '：'
    | (_, some _) => return false
  else .ok false

/-- The combinator that the text starts with. -/
def startingCombinator (text : List Char) : Option Combinator :=
  if Combinator.and.token.isPrefixOf text then some .and
  else if Combinator.or.token.isPrefixOf text then some .or
  else none

/-- The combinator at an index. -/
def combinatorAt (text : List Char) (index : Nat) : Scanned (Option Combinator) := do
  if (← byteAt text index) == ' '.toUInt8 then return startingCombinator (← sliceFrom text index)
  else return none

/-- The segment between two offsets, which is not empty. -/
def segmentBetween (text : List Char) (start stop : Nat) : Scanned Segment :=
  if start = stop then .error (.refused (.danglingCombinator start))
  else (slice text start stop).map fun part => { text := part, offset := start }

/-- How far a scan of segments has come. -/
structure Scanner where
  /-- Where the segment starts that the scan is in. -/
  start : Nat
  /-- The next byte. -/
  index : Nat
  /-- The segments of the last chain. -/
  chain : List Segment
  /-- The chains in front of it. -/
  groups : List (List Segment)

namespace Scanner

/-- Goes on to the next byte. -/
def skip (scanner : Scanner) : Scanner :=
  { scanner with index := scanner.index + 1 }

/-- Goes on behind a combinator that a segment ends at. -/
def push (scanner : Scanner) (combinator : Combinator) (segment : Segment) : Scanner :=
  let chain := scanner.chain ++ [segment]
  let next := scanner.index + 4
  match combinator with
  | .and => { scanner with start := next, index := next, chain }
  | .or => { start := next, index := next, chain := [], groups := scanner.groups ++ [chain] }

/-- The segment that a combinator follows: a label takes the space of the combinator. -/
def segment (text : List Char) (scanner : Scanner) (combinator : Combinator) : Scanned Segment := do
  let labelled ←
    match combinator with
    | .and => isLabel (← slice text scanner.start scanner.index)
    | .or => pure false
  segmentBetween text scanner.start (if labelled then scanner.index + 1 else scanner.index)

/-- One round of the scan, at a byte of the text. -/
def round (text : List Char) (scanner : Scanner) : Scanned Scanner := do
  match ← combinatorAt text scanner.index with
  | none => return scanner.skip
  | some combinator =>
      let rest ← sliceFrom text (scanner.index + 4)
      if isDangling rest then throw (.refused (.danglingCombinator (scanner.index + 1)))
      else if opensTerm rest then
        return scanner.push combinator (← scanner.segment text combinator)
      else return scanner.skip

/-- A round goes on to the next byte or behind a combinator. -/
theorem eq_of_round {text : List Char} {scanner next : Scanner}
    (went : scanner.round text = .ok next) :
    next = scanner.skip ∨ ∃ combinator segment, next = scanner.push combinator segment := by
  unfold round at went
  obtain ⟨found, -, went⟩ := bind_eq_ok_iff.mp went
  cases found with
  | none => exact .inl (Except.ok.inj went).symm
  | some combinator =>
      obtain ⟨rest, -, went⟩ := bind_eq_ok_iff.mp went
      split_ifs at went with hangs opens
      · obtain ⟨segment, -, went⟩ := bind_eq_ok_iff.mp went
        exact .inr ⟨combinator, segment, (Except.ok.inj went).symm⟩
      · exact .inl (Except.ok.inj went).symm

theorem index_lt_of_round {text : List Char} {scanner next : Scanner}
    (went : scanner.round text = .ok next) : scanner.index < next.index := by
  rcases eq_of_round went with rfl | ⟨combinator, segment, rfl⟩
  · exact Nat.lt_succ_self _
  · cases combinator <;> simp [push]

/-- The chains, once the scan has gone over all bytes. -/
def run (text : List Char) (scanner : Scanner) : Scanned (List (List Segment)) :=
  if inside : scanner.index < byteLength text then
    match went : scanner.round text with
    | .error reason => .error reason
    | .ok next =>
        have : byteLength text - next.index < byteLength text - scanner.index :=
          Nat.sub_lt_sub_left inside (index_lt_of_round went)
        run text next
  else do
    let segment ← segmentBetween text scanner.start (byteLength text)
    return scanner.groups ++ [scanner.chain ++ [segment]]
termination_by byteLength text - scanner.index

end Scanner

/-- Cuts a rule into the segments of its chains. -/
def splitGroups (text : List Char) : Scanned (List (List Segment)) :=
  if (Text.trim text).isEmpty then .error (.refused .emptyRule)
  else if startsWithMark text then .error (.refused (.danglingCombinator 0))
  else Scanner.run text { start := 0, index := 0, chain := [], groups := [] }

/-- The chain that segments spell. -/
def chainOf (segments : List Segment) : Scanned Chain :=
  (segments.mapM fun segment => termOf segment.text).map Chain.mk

/-- The rule that a string spells. -/
def parse (text : String) : Scanned Rule := do
  let chains ← splitGroups text.toList
  (chains.mapM chainOf).map Rule.mk

end Gleaner.Rule.Scan
