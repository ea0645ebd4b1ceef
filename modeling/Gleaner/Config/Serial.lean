import Gleaner.Config
import Gleaner.Document
import Gleaner.Json.Parser
import Gleaner.Json.Printer

/-!
# Configurations as JSON

A configuration is written as an object with one member for each choice.  It is read from such
an object, in which members may be missing and unknown ones are passed over, or from an array of
the choices in their order.
-/

namespace Gleaner

/-- The choice that is named by a string, or by an object with the name as its only member and
`null` as its value. -/
def Json.choice? {α : Type} (ofName? : String → Option α) : Json → Option α
  | .string name => ofName? name
  | .object [(name, .null)] => ofName? name
  | _ => none

namespace ZipPolicy

/-- The name of the policy. -/
def name : ZipPolicy → String
  | truncate => "truncate"
  | pad => "pad"
  | error => "error"

/-- Every policy. -/
def all : List ZipPolicy :=
  [truncate, pad, error]

/-- The policy with the name. -/
def ofName? (name : String) : Option ZipPolicy :=
  all.find? (·.name == name)

/-- The policy that a JSON value names. -/
def ofJson? : Json → Option ZipPolicy :=
  Json.choice? ofName?

/-- The policy as a JSON value. -/
def toJson (policy : ZipPolicy) : Json :=
  .string policy.name

end ZipPolicy

namespace DocumentKind

/-- The kind that a JSON value names. -/
def ofJson? : Json → Option DocumentKind :=
  Json.choice? ofName?

/-- The kind as a JSON value. -/
def toJson (kind : DocumentKind) : Json :=
  .string kind.name

end DocumentKind

namespace EngineConfig

/-- The truth value of a JSON value. -/
def readTrim? : Json → Option Bool
  | .bool value => some value
  | _ => none

/-- The capacity of a JSON value: `null` is no limit, and a limit fits 64 bits. -/
def readCapacity? : Json → Option (Option Nat)
  | .null => some none
  | .number (.integer value) => if 0 ≤ value then some (some value.toNat) else none
  | _ => none

/-- The names of the choices, in their order. -/
def fields : List String :=
  ["zip_policy", "trim_text", "cache_capacity"]

/-- The configuration with one choice read from a JSON value; unknown choices are passed over. -/
def set? (config : EngineConfig) (field : String) (value : Json) : Option EngineConfig :=
  match field with
  | "zip_policy" => (ZipPolicy.ofJson? value).map fun zipPolicy => { config with zipPolicy }
  | "trim_text" => (readTrim? value).map fun trimText => { config with trimText }
  | "cache_capacity" =>
      (readCapacity? value).map fun cacheCapacity => { config with cacheCapacity }
  | _ => some config

/-- The configuration with the choices of a list read one after the other. -/
def setAll? (config : EngineConfig) (members : List (String × Json)) : Option EngineConfig :=
  members.foldlM (fun config member => config.set? member.1 member.2) config

/-- No choice is named twice. -/
def namedOnce (members : List (String × Json)) : Bool :=
  fields.all fun field => (members.filter (·.1 == field)).length ≤ 1

/-- The configuration that a JSON value stands for, given with repeated names. -/
def ofJson? : Json → Option EngineConfig
  | .object members => if namedOnce members then setAll? {} members else none
  | .array items =>
      if items.length ≤ fields.length then setAll? {} (fields.zip items) else none
  | _ => none

/-- The configuration as a JSON value. -/
def toJson (config : EngineConfig) : Json :=
  .object
    [("zip_policy", config.zipPolicy.toJson),
      ("trim_text", .bool config.trimText),
      ("cache_capacity",
        (config.cacheCapacity.map fun limit => .number (.integer limit)).getD .null)]

end EngineConfig

/-- What a JSON text stands for, given how JSON values are read; repeated names are seen. -/
def Json.readAs? {α : Type} (ofJson? : Json → Option α) (text : String) : Option α :=
  match Json.parseVerbatim text with
  | .ok value => ofJson? value
  | .error _ => none

end Gleaner
