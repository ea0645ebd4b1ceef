import Gleaner.Number.Basic

/-!
# JSON values

The values of JSON.  The members of an object keep the order in which their names first appear.
-/

namespace Gleaner

/-- A JSON value. -/
inductive Json where
  /-- The value `null`. -/
  | null
  /-- A truth value. -/
  | bool (value : Bool)
  /-- A number. -/
  | number (value : Number)
  /-- A string. -/
  | string (value : String)
  /-- The elements of an array. -/
  | array (items : List Json)
  /-- The members of an object. -/
  | object (members : List (String × Json))

namespace Json

/-- The value under a name. -/
def member? (name : String) (members : List (String × Json)) : Option Json :=
  (members.find? (·.1 == name)).map (·.2)

mutual

/-- The value with one member under each name of an object: the last value of a name, in the
place of the first. -/
def distinct : Json → Json
  | array items => array (distinctItems items)
  | object members => object (distinctMembers members)
  | leaf => leaf

/-- The elements of an array with distinct names inside. -/
def distinctItems : List Json → List Json
  | [] => []
  | item :: items => item.distinct :: distinctItems items

/-- The members of an object under distinct names, with distinct names inside: a name keeps its
first place and takes its last value. -/
def distinctMembers : List (String × Json) → List (String × Json)
  | [] => []
  | (name, value) :: members =>
      let later := distinctMembers members
      match member? name later with
      | some last => (name, last) :: later.filter (·.1 != name)
      | none => (name, value.distinct) :: later

end

/-- The value holds no other values. -/
def isLeaf : Json → Bool
  | array _ => false
  | object _ => false
  | _ => true

end Json

end Gleaner
