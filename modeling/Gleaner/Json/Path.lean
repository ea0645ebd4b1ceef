import Gleaner.Json.Basic

/-!
# Paths into JSON values

A path is a list of steps; each step leads from a value to some of the values directly inside
it, and a path leads through all of its steps in turn.
-/

namespace Gleaner.Json

/-- One step of a path. -/
inductive Step where
  /-- To the member with a name. -/
  | key (name : String)
  /-- To the element with a number, counted from the end if negative. -/
  | index (position : Int)
  /-- To every element or member. -/
  | wildcard
  deriving DecidableEq, Repr

/-- The steps that lead to a value. -/
abbrev Path := List Step

/-- The number of the element that an index stands for among `size` elements. -/
def resolveIndex? (size : Nat) (position : Int) : Option Nat :=
  if 0 ≤ position then some position.toNat
  else if position.natAbs ≤ size then some (size - position.natAbs)
  else none

/-- The values that a step leads to, in order. -/
def Step.apply : Step → Json → List Json
  | key name, object members => (member? name members).toList
  | index position, array items =>
      ((resolveIndex? items.length position).bind (items[·]?)).toList
  | wildcard, array items => items
  | wildcard, object members => members.map (·.2)
  | _, _ => []

/-- The values that a path leads to from the values of one level, in order; no step is taken from
a level that is empty. -/
def Path.descend : Path → List Json → List Json
  | [], level => level
  | step :: path, level =>
      let next := level.flatMap step.apply
      if next.isEmpty then next else descend path next

/-- The values that a path leads to from a root, in order. -/
def Path.select (path : Path) (root : Json) : List Json :=
  path.descend [root]

theorem Path.descend_nil (path : Path) : path.descend [] = [] := by
  cases path <;> rfl

/-- Leaving an empty level at once changes nothing. -/
theorem Path.descend_cons (step : Step) (path : Path) (level : List Json) :
    Path.descend (step :: path) level = path.descend (level.flatMap step.apply) := by
  rw [descend]
  split
  · next empty => rw [List.isEmpty_iff.mp empty, descend_nil]
  · rfl

/-- What is found from the values of a level is found from each of them in turn. -/
theorem Path.descend_eq_flatMap (path : Path) (level : List Json) :
    path.descend level = level.flatMap path.select := by
  induction path generalizing level with
  | nil => exact (List.flatMap_singleton' level).symm
  | cons step path induction =>
      have first (root : Json) :
          Path.select (step :: path) root = (step.apply root).flatMap (Path.select path) := by
        rw [select, descend_cons, List.flatMap_singleton, induction]
      rw [descend_cons, induction, List.flatMap_assoc]
      exact congrArg (List.flatMap · level) (funext fun root => (first root).symm)

/-- A path leads through its first step and then through the others. -/
theorem Path.select_cons (step : Step) (path : Path) (root : Json) :
    Path.select (step :: path) root = (step.apply root).flatMap path.select := by
  rw [select, descend_cons, List.flatMap_singleton, descend_eq_flatMap]

/-- A path made of two leads through the first and then through the second. -/
theorem Path.select_append (left right : Path) (value : Json) :
    Path.select (left ++ right) value =
      (Path.select left value).flatMap (Path.select right) := by
  induction left generalizing value with
  | nil => simp [select, descend]
  | cons step left induction =>
      simp only [List.cons_append, select_cons, List.flatMap_assoc]
      exact congrArg (List.flatMap · (step.apply value)) (funext induction)

end Gleaner.Json
