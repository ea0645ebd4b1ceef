import Gleaner.Css.Selector
import Gleaner.Css.Token.Reader

/-!
# Reading selectors

Reads lists of selectors.  A malformed selector is an error, except that some lists leave it out.
-/

namespace Gleaner.Css

/-- Why a text is no list of selectors. -/
inductive SelectorError where
  /-- A selector is missing. -/
  | emptySelector
  /-- A selector is missing after a combinator. -/
  | danglingCombinator
  /-- A token cannot stand where it does. -/
  | unexpectedToken
  /-- A name is missing after a dot or a colon. -/
  | missingName
  /-- A vocabulary has not been declared. -/
  | unknownVocabulary
  /-- A condition on an attribute is malformed. -/
  | badAttribute
  /-- A condition on a position is malformed. -/
  | badPosition
  /-- A name after a colon has no meaning. -/
  | unknownCondition
  /-- A selector stands where it is not allowed. -/
  | notAllowed
  deriving DecidableEq, Repr

/-- What is wrong with the text, in words. -/
def SelectorError.message : SelectorError → String
  | emptySelector => "empty selector"
  | danglingCombinator => "dangling combinator"
  | unexpectedToken => "unexpected token"
  | missingName => "a name is missing"
  | unknownVocabulary => "unknown namespace"
  | badAttribute => "malformed attribute selector"
  | badPosition => "malformed position"
  | unknownCondition => "unknown pseudo-class or pseudo-element"
  | notAllowed => "selector not allowed here"

/-- A failure to read a selector. -/
structure Failure where
  /-- Why there is none. -/
  error : SelectorError
  /-- What comes after the parts that were read. -/
  rest : List Part

/-- The result with what comes after the parts that it was read from, should it be an error. -/
def before {Found : Type} (rest : List Part) (result : Except SelectorError Found) :
    Except Failure Found :=
  result.mapError fun error => { error, rest }

/-- The attributes of HTML whose values are compared without regard to case. -/
def caselessAttributes : List String :=
  ["accept", "accept-charset", "align", "alink", "axis", "bgcolor", "charset", "checked", "clear",
    "codetype", "color", "compact", "declare", "defer", "dir", "direction", "disabled", "enctype",
    "face", "frame", "hreflang", "http-equiv", "lang", "language", "link", "media", "method",
    "multiple", "nohref", "noresize", "noshade", "nowrap", "readonly", "rel", "rev", "rules",
    "scope", "scrolling", "selected", "shape", "target", "text", "type", "valign", "valuetype",
    "vlink"]

/-! ## Attributes -/

/-- The flag after the value: where case does not matter, if it says so. -/
def readCaseFlag (parts : List Part) : Except SelectorError (Option CaseRule) :=
  match Part.skipSpace parts with
  | [] => .ok none
  | .token (.ident flag) :: rest =>
      if !(Part.skipSpace rest).isEmpty then .error .badAttribute
      else if flag.toLower == "i" then .ok (some .everywhere)
      else if flag.toLower == "s" then .ok (some .nowhere)
      else .error .badAttribute
  | _ => .error .badAttribute

/-- The value that an attribute is compared with, and what follows it. -/
def readValue (parts : List Part) : Except SelectorError (String × List Part) :=
  match Part.skipSpace parts with
  | .token (.ident value) :: rest => .ok (value, rest)
  | .token (.quoted value) :: rest => .ok (value, rest)
  | _ => .error .badAttribute

/-- Where case does not matter for the values of an attribute without a flag that says so. -/
def usualCaseRule (name : String) (mayBeQualified : Bool) : CaseRule :=
  if !mayBeQualified && caselessAttributes.contains name.toLower then .inHtml else .nowhere

/-- The condition on the attribute of a name. -/
def readComparison (name : String) (mayBeQualified : Bool) (parts : List Part) :
    Except SelectorError AttributeTest := do
  let compared (operator : Operator) (rest : List Part) : Except SelectorError AttributeTest := do
    let (value, rest) ← readValue rest
    let flag ← readCaseFlag rest
    let caseless := flag.getD (usualCaseRule name mayBeQualified)
    return { name, mayBeQualified, value? := some { operator, value, caseless } }
  match Part.skipSpace parts with
  | [] => return { name, mayBeQualified }
  | .token (.delim '=') :: rest => compared .equals rest
  | .token (.operator operator) :: rest => compared operator rest
  | _ => .error .badAttribute

/-- The condition between square brackets. -/
def readAttributeTest (parts : List Part) : Except SelectorError AttributeTest :=
  match Part.skipSpace parts with
  | .token (.ident _) :: .token (.delim '|') :: _ => .error .unknownVocabulary
  | .token (.ident name) :: rest => readComparison name false rest
  | .token (.delim '*') :: .token (.delim '|') :: .token (.ident name) :: rest =>
      readComparison name true rest
  | .token (.delim '|') :: .token (.ident name) :: rest => readComparison name false rest
  | _ => .error .badAttribute

/-! ## Positions -/

/-- The number in a unit such as `n-3`. -/
def hyphenated? (unit : String) : Option Int :=
  match unit.toLower.toList with
  | 'n' :: '-' :: digits =>
      if digits.isEmpty || !digits.all Char.isDigit then none
      else some (clamped (-(Text.decimalNumber digits : Int)))
  | _ => none

/-- An offset without sign. -/
def readUnsignedOffset (step sign : Int) (parts : List Part) :
    Except SelectorError (Int × Int × List Part) :=
  match Part.skipSpace parts with
  | .token (.number false (some offset)) :: rest => .ok (step, sign * offset, rest)
  | _ => .error .badPosition

/-- An offset with its sign, if there is one. -/
def readOffset (step : Int) (parts : List Part) : Except SelectorError (Int × Int × List Part) :=
  match Part.skipSpace parts with
  | .token (.delim '+') :: rest => readUnsignedOffset step 1 rest
  | .token (.delim '-') :: rest => readUnsignedOffset step (-1) rest
  | .token (.number true (some offset)) :: rest => .ok (step, offset, rest)
  | _ => .ok (step, 0, parts)

/-- A step whose unit is given. -/
def readStep (step : Int) (unit : String) (rest : List Part) :
    Except SelectorError (Int × Int × List Part) :=
  match unit.toLower with
  | "n" => readOffset step rest
  | "n-" => readUnsignedOffset step (-1) rest
  | _ =>
      match hyphenated? unit with
      | some offset => .ok (step, offset, rest)
      | none => .error .badPosition

/-- Step and offset, and what follows them. -/
def readSteps (parts : List Part) : Except SelectorError (Int × Int × List Part) :=
  match Part.skipSpace parts with
  | .token (.number _ (some offset)) :: rest => .ok (0, offset, rest)
  | .token (.dimension (some step) unit) :: rest => readStep step unit rest
  | .token (.delim '+') :: .token (.ident name) :: rest => readStep 1 name rest
  | .token (.ident name) :: rest =>
      match name.toLower.toList with
      | '-' :: unit => readStep (-1) (String.ofList unit) rest
      | unit =>
          if unit == "even".toList then .ok (2, 0, rest)
          else if unit == "odd".toList then .ok (2, 1, rest)
          else readStep 1 name rest
  | _ => .error .badPosition

/-- The condition on a position. -/
def readPositionTest (ofType fromEnd : Bool) (parts : List Part) :
    Except SelectorError PositionTest := do
  let (step, offset, rest) ← readSteps parts
  if (Part.skipSpace rest).isEmpty then return ⟨ofType, fromEnd, step, offset⟩
  else .error .badPosition

/-! ## Compounds -/

/-- Where a list of selectors stands. -/
inductive ListPlace where
  /-- It stands for itself, or its selectors are ruled out. -/
  | plain
  /-- Malformed selectors in it are left out. -/
  | forgiving
  /-- Its selectors start at an element. -/
  | relative
  deriving DecidableEq, Repr

/-- Reads a list of selectors in a place, given that it is or is not within a relative one. -/
abbrev ListReader := ListPlace → Bool → List Part → Except SelectorError (List Selector)

/-- The conditions that a name after a colon stands for. -/
def namedConditions (name : String) : Except SelectorError (List Simple) :=
  match name.toLower with
  | "first-child" => .ok [.position (.first false)]
  | "last-child" => .ok [.position (.last false)]
  | "only-child" => .ok [.position (.first false), .position (.last false)]
  | "first-of-type" => .ok [.position (.first true)]
  | "last-of-type" => .ok [.position (.last true)]
  | "only-of-type" => .ok [.position (.first true), .position (.last true)]
  | "root" | "scope" => .ok [.root]
  | "empty" => .ok [.empty]
  | _ => .error .unknownCondition

/-- The condition that a function after a colon stands for. -/
def functionCondition (readList : ListReader) (isRelative : Bool) (name : String)
    (parts : List Part) : Except SelectorError Simple :=
  match name.toLower with
  | "nth-child" => (readPositionTest false false parts).map .position
  | "nth-last-child" => (readPositionTest false true parts).map .position
  | "nth-of-type" => (readPositionTest true false parts).map .position
  | "nth-last-of-type" => (readPositionTest true true parts).map .position
  | "is" | "where" => (readList .forgiving isRelative parts).map .anyOf
  | "not" => (readList .plain isRelative parts).map .noneOf
  | "has" =>
      if isRelative then .error .notAllowed
      else (readList .relative true parts).map .leadsTo
  | _ => .error .unknownCondition

/-- The conditions at the start of the parts, apart from one on the element's name, and what
follows them. -/
def readConditions (readList : ListReader) (isRelative : Bool) :
    List Part → Except Failure (List Simple × List Part)
  | .token (.hash id true) :: rest => do
      let (more, rest) ← readConditions readList isRelative rest
      return (.id id :: more, rest)
  | .token (.delim '.') :: .token (.ident name) :: rest => do
      let (more, rest) ← readConditions readList isRelative rest
      return (.ofClass name :: more, rest)
  | .token (.delim '.') :: rest => .error ⟨.missingName, rest.drop 1⟩
  | .block (.bracket .square) inside :: rest => do
      let test ← before rest (readAttributeTest inside)
      let (more, rest) ← readConditions readList isRelative rest
      return (.withAttribute test :: more, rest)
  | .token .colon :: .token (.ident name) :: rest => do
      let found ← before rest (namedConditions name)
      let (more, rest) ← readConditions readList isRelative rest
      return (found ++ more, rest)
  | .token .colon :: .block (.function name) inside :: rest => do
      let found ← before rest (functionCondition readList isRelative name inside)
      let (more, rest) ← readConditions readList isRelative rest
      return (found :: more, rest)
  | .token .colon :: .token .colon :: rest => .error ⟨.unknownCondition, rest.drop 1⟩
  | .token .colon :: rest => .error ⟨.missingName, rest.drop 1⟩
  | parts => .ok ([], parts)

/-- The condition on the element's name at the start of the parts, if there is one, and what
follows it. -/
def readElementName (parts : List Part) :
    Except Failure (Option (List Simple) × List Part) :=
  match parts with
  | .token (.ident _) :: .token (.delim '|') :: rest => .error ⟨.unknownVocabulary, rest⟩
  | .token (.ident name) :: rest => .ok (some [.name name], rest)
  | .token (.delim '*') :: .token (.delim '|') :: rest =>
      match rest with
      | .token (.delim '*') :: rest => .ok (some [], rest)
      | .token (.ident name) :: rest => .ok (some [.name name], rest)
      | _ => .error ⟨.unexpectedToken, rest.drop 1⟩
  | .token (.delim '*') :: rest => .ok (some [], rest)
  | .token (.delim '|') :: rest =>
      match rest with
      | .token (.delim '*') :: rest => .ok (some [.outsideVocabularies], rest)
      | .token (.ident _) :: rest => .ok (some [.outsideVocabularies], rest)
      | _ => .error ⟨.unexpectedToken, rest.drop 1⟩
  | parts => .ok (none, parts)

/-- The compound at the start of the parts, if there is one, and what follows it. -/
def readCompound (readList : ListReader) (isRelative : Bool) (parts : List Part) :
    Except Failure (Option (List Simple) × List Part) := do
  let (name?, rest) ← readElementName (Part.skipSpace parts)
  let (conditions, rest) ← readConditions readList isRelative rest
  match name?, conditions with
  | none, [] => return (none, rest)
  | none, conditions => return (some conditions, rest)
  | some name, conditions => return (some (name ++ conditions), rest)

/-! ## Selectors -/

/-- The combinator at the start of the parts, if one is there, and what follows it.  White space
alone is one if more follows. -/
def readCombinator (parts : List Part) : Option Combinator × List Part :=
  match Part.skipSpace parts with
  | [] => (none, [])
  | .token (.delim '>') :: rest => (some .child, rest)
  | .token (.delim '+') :: rest => (some .nextSibling, rest)
  | .token (.delim '~') :: rest => (some .laterSibling, rest)
  | rest => (if parts.head?.any Part.isSpace then some .descendant else none, rest)

/-- Reads a selector, given the left part that it is joined to.  Each round takes a part at
least. -/
def readJoined (readList : ListReader) (isRelative : Bool) :
    Nat → Option (Selector × Combinator) → List Part → Except Failure Selector
  | 0, _, parts => .error ⟨.emptySelector, parts⟩
  | rounds + 1, left?, parts => do
      let (compound?, rest) ← readCompound readList isRelative parts
      match compound? with
      | none => .error ⟨if left?.isSome then .danglingCombinator else .emptySelector, rest⟩
      | some conditions =>
          let selector :=
            match left? with
            | some (left, combinator) => Selector.joined left combinator conditions
            | none => .compound conditions
          match readCombinator rest with
          | (some combinator, rest) =>
              readJoined readList isRelative rounds (some (selector, combinator)) rest
          | (none, []) => return selector
          | (none, rest) => .error ⟨.unexpectedToken, rest⟩

/-- The selector that the parts spell. -/
def readSelector (readList : ListReader) (place : ListPlace) (isRelative : Bool)
    (parts : List Part) : Except Failure Selector :=
  let parts := Part.skipSpace parts
  match place with
  | .relative =>
      let (combinator?, rest) := readCombinator parts
      readJoined readList isRelative (parts.length + 1)
        (some (.anchor, combinator?.getD .descendant)) rest
  | _ => readJoined readList isRelative (parts.length + 1) none parts

/-- The parts between commas. -/
def splitCommas : List Part → List (List Part)
  | [] => [[]]
  | part :: rest =>
      if part.isComma then [] :: splitCommas rest
      else
        match splitCommas rest with
        | [] => [[part]]
        | first :: others => (part :: first) :: others

/-- The selectors of one place between commas: one, or none if it is malformed and may be.  Even
where it may be, the parts that have not been read have to be sound. -/
def readOne (readList : ListReader) (place : ListPlace) (isRelative : Bool)
    (parts : List Part) : Except SelectorError (List Selector) :=
  match readSelector readList place isRelative parts with
  | .ok selector => .ok [selector]
  | .error failure =>
      if place = .forgiving ∧ Part.areSound failure.rest = true then .ok []
      else .error failure.error

/-- Reads lists of selectors that are nested to a depth at most. -/
def readList : Nat → ListReader
  | 0, _, _, _ => .error .notAllowed
  | depth + 1, place, isRelative, parts => do
      let found ← (splitCommas parts).mapM (readOne (readList depth) place isRelative)
      return found.flatten

/-- The selectors that a text lists. -/
def Selector.parseList (text : String) : Except SelectorError (List Selector) :=
  let tokens := tokensOf text.toList
  readList (tokens.length + 1) .plain false (Part.group tokens)

end Gleaner.Css
