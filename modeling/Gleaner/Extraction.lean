import Gleaner.Error

/-!
# Extractions and reports

The result of running a rule: extracted data, which may be absent, or the kind of an error.  A
report adds which chain gave the data, how many were tried, and whether the rule was remembered.
-/

namespace Gleaner

/-- The result of running a rule: a value or the kind of an error, or neither where nothing
matched. -/
structure Extraction where
  /-- The extracted data, absent where nothing matched and where something went wrong. -/
  value? : Option Value
  /-- The kind of the error, if something went wrong. -/
  error? : Option ErrorKind
  deriving DecidableEq, Repr

namespace Extraction

/-- The extraction of data without an error. -/
def data (value : Option Value) : Extraction :=
  { value? := value, error? := none }

/-- The extraction of an error without data. -/
def failed (kind : ErrorKind) : Extraction :=
  { value? := none, error? := some kind }

@[simp] theorem value?_data (value : Option Value) : (data value).value? = value := rfl

@[simp] theorem error?_data (value : Option Value) : (data value).error? = none := rfl

@[simp] theorem value?_failed (kind : ErrorKind) : (failed kind).value? = none := rfl

@[simp] theorem error?_failed (kind : ErrorKind) : (failed kind).error? = some kind := rfl

@[simp] theorem failed_ne_data (kind : ErrorKind) (value : Option Value) :
    failed kind ≠ data value :=
  fun same => nomatch congrArg error? same

/-- The extraction of an evaluated value, without nulls. -/
def ofValue (value : Value) : Extraction :=
  data value.success?

@[simp] theorem error?_ofValue (value : Value) : (ofValue value).error? = none := rfl

/-- The extraction of a result. -/
def ofResult : Except Error Value → Extraction
  | .ok value => ofValue value
  | .error error => failed error.kind

/-- Nothing went wrong. -/
def isOk (extraction : Extraction) : Bool :=
  extraction.error?.isNone

/-- The data if they are a single string. -/
def string? (extraction : Extraction) : Option String :=
  extraction.value?.bind Value.string?

/-- The extraction for display: an error is shown before data. -/
def display (extraction : Extraction) : String :=
  match extraction.value?, extraction.error? with
  | _, some kind => "error: " ++ kind.name
  | some value, none => value.display
  | none, none => "null"

/-- The extraction as a JSON value. -/
def toJson (extraction : Extraction) : Json :=
  .object
    [("data", (extraction.value?.map Value.toJson).getD .null),
      ("error", (extraction.error?.map fun kind => .string kind.name).getD .null)]

end Extraction

/-- An extraction with its diagnostics. -/
structure Report where
  /-- The extraction. -/
  extraction : Extraction
  /-- The number of the chain that gave the data. -/
  matchedGroup : Option Nat
  /-- How many chains were evaluated. -/
  attempts : Nat
  /-- The rule was remembered from an earlier call. -/
  cacheHit : Bool
  deriving DecidableEq, Repr

/-- The report for display. -/
def Report.display (report : Report) : String :=
  let group := match report.matchedGroup with
    | some group => toString group
    | none => "none"
  "result: " ++ report.extraction.display ++ ", group: " ++ group ++ ", attempts: " ++
    toString report.attempts ++ ", cached: " ++ toString report.cacheHit

end Gleaner
