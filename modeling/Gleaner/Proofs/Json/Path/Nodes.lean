import Gleaner.Proofs.Json.Path.Grammar
import Mathlib.Tactic.Choose

/-!
# The nodes of a document that a path addresses

A node is located by the positions of the children that lead to it from the root.  A path finds
the nodes that it addresses, each location once and the locations in the order of the document.
-/

namespace Gleaner.Json

/-- The values directly inside a value, in order. -/
def children : Json → List Json
  | array items => items
  | object members => members.map (·.2)
  | _ => []

/-- The step leads from a value to its child at a position; a name leads to the first member that
has it. -/
def Step.Takes : Step → Json → Nat → Prop
  | key name, object members, position =>
      (members.map (·.1))[position]? = some name ∧
        ∀ before < position, (members.map (·.1))[before]? ≠ some name
  | index place, array items, position =>
      (position : Int) = place ∨ place < 0 ∧ (position : Int) = items.length + place
  | wildcard, array _, _ => True
  | wildcard, object _, _ => True
  | _, _, _ => False

/-- The path leads from a value to a node along the children at the positions of a location. -/
inductive Path.Addresses : Path → Json → List Nat → Json → Prop
  | root {value} : Addresses [] value [] value
  | child {step : Step} {path value position child location node}
      (stands : value.children[position]? = some child) (takes : step.Takes value position)
      (behind : Addresses path child location node) :
      Addresses (step :: path) value (position :: location) node

/-- The values are the nodes at the addressed places, each place once and the places in order. -/
def InOrder {Place : Type} [LT Place] (addressed : Place → Json → Prop) (values : List Json) :
    Prop :=
  ∃ nodes : List (Json × Place), values = nodes.map (·.1) ∧ (nodes.map (·.2)).Pairwise (· < ·) ∧
    ∀ place node, (node, place) ∈ nodes ↔ addressed place node

/-! ## One step -/

section

variable {Place : Type} [LT Place] {addressed : Place → Json → Prop}

theorem inOrder_nil (none : ∀ place node, ¬addressed place node) : InOrder addressed [] :=
  ⟨[], rfl, .nil, fun place node => by simp [none]⟩

theorem inOrder_singleton (place : Place) (node : Json)
    (only : ∀ other value, addressed other value ↔ other = place ∧ value = node) :
    InOrder addressed [node] := by
  refine ⟨[(node, place)], rfl, List.pairwise_singleton .., fun other value => ?_⟩
  rw [only, List.mem_singleton, Prod.mk.injEq, and_comm]

end

/-- The step leads from a value to its child at a position. -/
def Step.Child (step : Step) (value : Json) (position : Nat) (child : Json) : Prop :=
  value.children[position]? = some child ∧ step.Takes value position

section

variable {step : Step} {value : Json}

private theorem Step.child_inOrder_of_only {only : Option Nat}
    (taken : ∀ position < value.children.length,
      step.Takes value position ↔ only = some position) :
    InOrder (step.Child value) (only.bind (value.children[·]?)).toList := by
  have child_iff (position : Nat) (child : Json) : step.Child value position child ↔
      only = some position ∧ value.children[position]? = some child := by
    rw [and_comm]
    refine and_congr_right fun stands => taken position ?_
    exact (List.getElem?_eq_some_iff.mp stands).1
  cases only with
  | none => exact inOrder_nil fun position child => by simp [child_iff]
  | some only =>
      rw [Option.bind_some]
      cases here : value.children[only]? with
      | none =>
          refine inOrder_nil fun position child found => ?_
          obtain ⟨same, stands⟩ := (child_iff position child).mp found
          obtain rfl := Option.some.inj same
          simp [here] at stands
      | some node =>
          refine inOrder_singleton only node fun position child => ?_
          rw [child_iff, Option.some_inj, eq_comm]
          refine and_congr_right fun same => ?_
          rw [same, here, Option.some_inj, eq_comm]

private theorem Step.child_inOrder_of_every (taken : ∀ position, step.Takes value position) :
    InOrder (step.Child value) value.children := by
  refine ⟨value.children.zipIdx, (List.zipIdx_map_fst 0 _).symm, ?_, fun position child => ?_⟩
  · rw [List.zipIdx_map_snd]
    exact List.pairwise_lt_range'
  · rw [List.mk_mem_zipIdx_iff_getElem?]
    exact (and_iff_left (taken position)).symm

private theorem Step.child_inOrder_of_no (taken : ∀ position, ¬step.Takes value position) :
    InOrder (step.Child value) [] :=
  inOrder_nil fun position _ found => taken position found.2

end

private theorem member?_eq_bind (name : String) (members : List (String × Json)) :
    member? name members =
      (members.findIdx? (·.1 == name)).bind ((object members).children[·]?) := by
  rw [member?, List.find?_eq_bind_findIdx?_getElem?, Option.map_bind]
  simp only [children, List.getElem?_map, Function.comp_def]

private theorem takes_key_iff {name : String} {members : List (String × Json)} {position : Nat}
    (inside : position < members.length) :
    (Step.key name).Takes (object members) position ↔
      members.findIdx? (·.1 == name) = some position := by
  rw [List.findIdx?_eq_some_iff_getElem]
  have named {place : Nat} (bound : place < members.length) :
      (members.map (·.1))[place]? = some name ↔ (members[place].1 == name) = true := by
    rw [List.getElem?_map, List.getElem?_eq_getElem bound]
    simp
  simp only [Step.Takes, named inside, inside, exists_true_left]
  refine and_congr_right fun _ => forall₂_congr fun before earlier => ?_
  rw [ne_eq, named (earlier.trans inside)]

private theorem takes_index_iff {place : Int} {items : List Json} {position : Nat}
    (inside : position < items.length) :
    (Step.index place).Takes (array items) position ↔
      resolveIndex? items.length place = some position := by
  simp only [Step.Takes, resolveIndex?]
  split
  · rw [Option.some_inj]
    omega
  · split
    · rw [Option.some_inj]
      omega
    · simp only [reduceCtorEq, iff_false]
      omega

private theorem Step.apply_inOrder (step : Step) (value : Json) :
    InOrder (step.Child value) (step.apply value) := by
  cases step with
  | key name =>
      cases value with
      | object members =>
          rw [apply, member?_eq_bind]
          refine child_inOrder_of_only fun position inside => takes_key_iff ?_
          simpa [children] using inside
      | _ => exact child_inOrder_of_no fun _ => id
  | index place =>
      cases value with
      | array items => exact child_inOrder_of_only fun position => takes_index_iff
      | _ => exact child_inOrder_of_no fun _ => id
  | wildcard =>
      cases value with
      | array items => exact child_inOrder_of_every fun _ => trivial
      | object members => exact child_inOrder_of_every fun _ => trivial
      | _ => exact child_inOrder_of_no fun _ => id

/-! ## Whole paths -/

theorem Path.addresses_cons_iff {step : Step} {path : Path} {value node : Json}
    {location : List Nat} :
    Addresses (step :: path) value location node ↔ ∃ position rest child,
      location = position :: rest ∧ step.Child value position child ∧
        path.Addresses child rest node := by
  constructor
  · intro led
    cases led with
    | child stands takes behind => exact ⟨_, _, _, rfl, ⟨stands, takes⟩, behind⟩
  · rintro ⟨position, rest, child, rfl, ⟨stands, takes⟩, behind⟩
    exact .child stands takes behind

private theorem Path.select_inOrder (path : Path) (root : Json) :
    InOrder (path.Addresses root) (path.select root) := by
  induction path generalizing root with
  | nil =>
      refine inOrder_singleton [] root fun location node => ⟨?_, ?_⟩
      · rintro ⟨⟩
        exact ⟨rfl, rfl⟩
      · rintro ⟨rfl, rfl⟩
        exact .root
  | cons step path ih =>
      obtain ⟨children, values, ordered, taken⟩ := step.apply_inOrder root
      choose nodes found sorted addressed using ih
      let below (entry : Json × Nat) : List (Json × List Nat) :=
        (nodes entry.1).map fun (node, location) => (node, entry.2 :: location)
      refine ⟨children.flatMap below, ?_, ?_, fun location node => ?_⟩
      · rw [Path.select_cons, values, List.flatMap_map, List.map_flatMap]
        have same (entry : Json × Nat) : Path.select path entry.1 = (below entry).map (·.1) := by
          rw [found, List.map_map]
          rfl
        exact congrArg (children.flatMap ·) (funext same)
      · rw [List.pairwise_map, List.pairwise_flatMap]
        constructor
        · intro entry _
          refine List.pairwise_map.mpr ((List.pairwise_map.mp (sorted entry.1)).imp ?_)
          exact fun less => List.cons_lt_cons_iff.mpr (.inr ⟨rfl, less⟩)
        · refine (List.pairwise_map.mp ordered).imp fun less left inLeft right inRight => ?_
          obtain ⟨_, _, rfl⟩ := List.mem_map.mp inLeft
          obtain ⟨_, _, rfl⟩ := List.mem_map.mp inRight
          exact List.cons_lt_cons_iff.mpr (.inl less)
      · rw [addresses_cons_iff, List.mem_flatMap]
        constructor
        · rintro ⟨⟨child, position⟩, mem, inside⟩
          obtain ⟨⟨other, rest⟩, here, same⟩ := List.mem_map.mp inside
          obtain ⟨rfl, rfl⟩ := Prod.mk.inj same
          exact ⟨position, rest, child, rfl, (taken _ _).mp mem, (addressed _ _ _).mp here⟩
        · rintro ⟨position, rest, child, rfl, first, behind⟩
          refine ⟨(child, position), (taken _ _).mpr first, ?_⟩
          exact List.mem_map.mpr ⟨(node, rest), (addressed _ _ _).mpr behind, rfl⟩

private theorem Step.apply_length_le_one {step : Step} (single : step ≠ .wildcard) (value : Json) :
    (step.apply value).length ≤ 1 := by
  unfold apply
  split
  · exact Option.length_toList_le
  · exact Option.length_toList_le
  · contradiction
  · contradiction
  · exact Nat.zero_le 1

private theorem Path.select_length_le_one {path : Path} (single : .wildcard ∉ path) (root : Json) :
    (path.select root).length ≤ 1 := by
  induction path generalizing root with
  | nil => exact le_rfl
  | cons step path ih =>
      obtain ⟨here, there⟩ := List.ne_and_not_mem_of_not_mem_cons single
      have few := Step.apply_length_le_one (Ne.symm here) root
      rw [select_cons]
      match step.apply root, few with
      | [], _ => exact Nat.zero_le 1
      | [child], _ => simpa using ih there child

/-! ## Evaluation -/

theorem evaluate_of_compile {text : String} {path : Path} (read : Path.compile text = .ok path)
    (root : Json) : jsonPathBackend.evaluate root text = .ok (path.select root) := by
  simp [jsonPathBackend, read, Except.map]

/-- A path finds exactly the nodes that it addresses, in the order of the document; steps behind
it go on from each of them in turn, and without wildcards there is at most one. -/
theorem evaluate_addressed {text : String} {path : Path} (read : Path.compile text = .ok path)
    (root : Json) :
    ∃ found, jsonPathBackend.evaluate root text = .ok found ∧
      InOrder (path.Addresses root) found ∧
      (∀ steps more, StepsSpelling steps.toList more → ∃ next : Json → List Json,
        (∀ node, jsonPathBackend.evaluate node ("$" ++ steps) = .ok (next node)) ∧
          jsonPathBackend.evaluate root (text ++ steps) = .ok (found.flatMap next)) ∧
      (.wildcard ∉ path → found.length ≤ 1) := by
  refine ⟨path.select root, evaluate_of_compile read root, path.select_inOrder root,
    fun steps more spelt => ⟨more.select, fun node => ?_, ?_⟩,
    fun single => Path.select_length_le_one single root⟩
  · refine evaluate_of_compile (Path.compile_eq_ok_iff.mpr ?_) node
    rw [String.toList_append]
    exact .rooted (.steps spelt)
  · have behind : Path.compile (text ++ steps) = .ok (path ++ more) := by
      rw [Path.compile_eq_ok_iff, String.toList_append]
      exact (Path.compile_eq_ok_iff.mp read).append spelt
    rw [evaluate_of_compile behind, Path.select_append]

/-- The last elements of the arrays under one name, in the order of the objects. -/
theorem evaluate_last_of_each :
    let root := array [object [("k", array [null, bool true])], null, object [("k", array [null])]]
    jsonPathBackend.evaluate root "$[*].k[-1]" = .ok [bool true, null] ∧
      InOrder (Path.Addresses [.wildcard, .key "k", .index (-1)] root) [bool true, null] := by
  intro root
  have read : Path.compile "$[*].k[-1]" = .ok [.wildcard, .key "k", .index (-1)] := by decide
  have nodes : Path.select [.wildcard, .key "k", .index (-1)] root = [bool true, null] := by rfl
  obtain ⟨found, evaluated, order, -⟩ := evaluate_addressed read root
  rw [evaluate_of_compile read, nodes] at evaluated
  obtain rfl := Except.ok.inj evaluated
  exact ⟨by rw [evaluate_of_compile read, nodes], order⟩

end Gleaner.Json
