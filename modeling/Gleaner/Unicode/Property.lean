import Gleaner.Text.Blank
import Gleaner.Unicode.Age
import Gleaner.Unicode.Binary
import Gleaner.Unicode.Category
import Gleaner.Unicode.GraphemeBreak
import Gleaner.Unicode.Script
import Gleaner.Unicode.SentenceBreak
import Gleaner.Unicode.WordBreak

/-!
# Properties by name

The sets of code points that a pattern can name: general categories, scripts, binary properties,
ages, and the classes of the three kinds of breaks.  Names are compared loosely, without regard to
case, spaces, hyphens, underscores and an initial `is`.
-/

namespace Gleaner.Unicode

/-- The form of a property's name that loose comparison looks at. -/
def looseName (name : List Char) : String :=
  let marked := match name with
    | first :: second :: rest =>
        if first.toLower == 'i' && second.toLower == 's' then some rest else none
    | _ => none
  let squeezed := (marked.getD name).filter fun c =>
    c != ' ' && c != '_' && c != '-' && c.toNat < 0x80
  let lowered := squeezed.map Char.toLower
  if marked.isSome && lowered == ['c'] then "isc" else String.ofList lowered

/-- The first of the sets that goes by the name. -/
def NamedSet.find? (sets : List NamedSet) (name : String) : Option (Nat → Bool) :=
  (sets.find? (·.names.contains name)).map (·.contains)

namespace Property

/-- The code point belongs to some category other than the unassigned one. -/
def assigned (code : Nat) : Bool :=
  ! Category.unassigned.contains code

/-- The set of a general category, a group of categories, or one of the sets `any`, `assigned`
and `ascii` that are named beside them. -/
def category? (name : String) : Option (Nat → Bool) :=
  match name with
  | "any" => some fun _ => true
  | "assigned" => some assigned
  | "ascii" => some (· < 0x80)
  | _ => NamedSet.find? Category.all name

/-- The set of a script. -/
def script? (name : String) : Option (Nat → Bool) :=
  NamedSet.find? Script.all name

/-- The code points that are used in a script, its own or shared with other scripts. -/
def scriptUse? (name : String) : Option (Nat → Bool) :=
  match NamedSet.find? Script.unshared name with
  | some set => some set
  | none => (script? name).map fun own =>
      match NamedSet.find? Script.sharedUse name with
      | some shared => fun code => own code || shared code
      | none => own

/-- The set that a single name stands for: a binary property, a category or a script.  No name
is one of two of them. -/
def named? (name : String) : Option (Nat → Bool) :=
  ((NamedSet.find? Binary.all name).or (category? name)).or (script? name)

/-- The reading of the values of a property that takes values. -/
def valueReading? (property : String) : Option (String → Option (Nat → Bool)) :=
  match property with
  | "gc" | "generalcategory" => some category?
  | "sc" | "script" => some script?
  | "scx" | "scriptextensions" => some scriptUse?
  | "age" => some Age.assignedBy?
  | "gcb" | "graphemeclusterbreak" => some (NamedSet.find? GraphemeBreak.all)
  | "wb" | "wordbreak" => some (NamedSet.find? WordBreak.all)
  | "sb" | "sentencebreak" => some (NamedSet.find? SentenceBreak.all)
  | _ => none

/-- The set of the characters whose property has a value. -/
def valued? (property value : String) : Option (Nat → Bool) :=
  (valueReading? property).bind fun reading => reading value

/-- A letter, mark, decimal digit, connector or joiner: what a word is made of. -/
def isWordPart (code : Nat) : Bool :=
  if code < 0x80 then
    0x30 ≤ code && code ≤ 0x39 || 0x41 ≤ code && code ≤ 0x5A || code == 0x5F ||
      0x61 ≤ code && code ≤ 0x7A
  else
    Binary.alphabetic.contains code || Category.nonspacingMark.contains code ||
      Category.spacingMark.contains code || Category.enclosingMark.contains code ||
      Category.decimalNumber.contains code || Category.connectorPunctuation.contains code ||
      Binary.joinControl.contains code

/-- A decimal digit of some script. -/
def isDecimalDigit (code : Nat) : Bool :=
  if code < 0x80 then 0x30 ≤ code && code ≤ 0x39
  else Category.decimalNumber.contains code

end Property
end Gleaner.Unicode
