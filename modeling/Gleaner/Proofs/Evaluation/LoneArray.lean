import Gleaner.Markup
import Gleaner.Proofs.Json.Path.Nodes
import Gleaner.Evaluation.Resolve
import Gleaner.Rule.Build

/-!
# Arrays found alone

A path that leads to one array of leaves and to nothing else stands for the elements of the array,
as it does with a wildcard behind it.  The two differ for an array of one element, which the
wildcard makes a scalar.
-/

namespace Gleaner

namespace Json

variable {text : String} {path : Path} {items : List Json}

theorem compile_append_wildcard (read : Path.compile text = .ok path) :
    Path.compile (text ++ "[*]") = .ok (path ++ [.wildcard]) := by
  have behind : StepsSpelling "[*]".toList [.wildcard] := .cons (.bracket .wildcard) .nil
  rw [Path.compile_eq_ok_iff, String.toList_append]
  exact (Path.compile_eq_ok_iff.mp read).append behind

private theorem select_append_wildcard {root : Json} (found : path.select root = [array items]) :
    Path.select (path ++ [.wildcard]) root = items := by
  have every : Path.select [.wildcard] (array items) = items := by
    rw [Path.select_cons]
    exact List.flatMap_singleton' items
  rw [Path.select_append, found, List.flatMap_singleton, every]

end Json

namespace Value

variable {items found : List Json}

private theorem ofJsonMatches_array (leaves : ∀ item ∈ items, item.isLeaf = true) :
    ofJsonMatches [.array items] = .sequence (items.map Primitive.ofJson) :=
  if_pos (List.all_eq_true.mpr leaves)

private theorem ofJsonMatches_of_not_leaves
    (other : ∀ items, found = [.array items] → ¬∀ item ∈ items, item.isLeaf = true) :
    ofJsonMatches found = ofMatches (found.map Primitive.ofJson) := by
  unfold ofJsonMatches
  split
  · next items => exact if_neg fun all => other items rfl (List.all_eq_true.mp all)
  · rfl

private theorem ofJsonMatches_leaves (leaves : ∀ item ∈ items, item.isLeaf = true) :
    ofJsonMatches items = ofMatches (items.map Primitive.ofJson) := by
  refine ofJsonMatches_of_not_leaves ?_
  rintro inner rfl
  have leaf := leaves _ List.mem_cons_self
  contradiction

theorem ofMatches_of_length_ne_one {items : List Primitive} (several : items.length ≠ 1) :
    ofMatches items = .sequence items := by
  unfold ofMatches
  split
  · contradiction
  · rfl

end Value

variable {Tree : Type} {backends : Backends Tree} {text : String} {path : Json.Path}

theorem Term.resolve_json (paths : backends.path = jsonPathBackend) (trimText : Bool)
    (read : Json.Path.compile text = .ok path) (root : Json) :
    (Term.json text).resolve backends trimText (.json root) =
      .ok (.ofJsonMatches (path.select root)) := by
  have found := Json.evaluate_of_compile read root
  rw [← paths] at found
  simp [Term.resolve, Term.json, Selector.resolve, found, Except.map]

/-- Where a path finds one array of leaves, its elements are its value, and so they are with a
wildcard behind the path, but for a lone element, which is then a scalar.  Whatever else the path
finds gives one primitive for each match. -/
theorem Term.lone_array_agrees (backends : Backends Tree) (paths : backends.path = jsonPathBackend)
    (trimText : Bool) (read : Json.Path.compile text = .ok path) (root : Json) :
    let resolve := fun text => (Term.json text).resolve backends trimText (.json root)
    ∃ found, backends.path.evaluate root text = .ok found ∧
      (∀ items, found = [.array items] → (∀ item ∈ items, item.isLeaf = true) →
        resolve text = .ok (.sequence (items.map .ofJson)) ∧
        (items.length ≠ 1 → resolve (text ++ "[*]") = .ok (.sequence (items.map .ofJson))) ∧
        ∀ item, items = [item] → resolve (text ++ "[*]") = .ok (.scalar (.ofJson item))) ∧
      ((∀ items, found = [.array items] → ¬∀ item ∈ items, item.isLeaf = true) →
        (found.length ≠ 1 → resolve text = .ok (.sequence (found.map .ofJson))) ∧
        ∀ only, found = [only] → resolve text = .ok (.scalar (.ofJson only))) := by
  intro resolve
  have plain : resolve text = .ok (.ofJsonMatches (path.select root)) :=
    Term.resolve_json paths trimText read root
  refine ⟨path.select root, by rw [paths, Json.evaluate_of_compile read], ?_, fun other => ?_⟩
  · intro items found leaves
    have expanded : resolve (text ++ "[*]") = .ok (.ofMatches (items.map .ofJson)) := by
      have behind := Term.resolve_json paths trimText (Json.compile_append_wildcard read) root
      rwa [Json.select_append_wildcard found, Value.ofJsonMatches_leaves leaves] at behind
    refine ⟨?_, fun several => ?_, ?_⟩
    · rw [plain, found, Value.ofJsonMatches_array leaves]
    · rw [expanded, Value.ofMatches_of_length_ne_one (by simpa using several)]
    · rintro item rfl
      exact expanded
  · rw [plain, Value.ofJsonMatches_of_not_leaves other]
    refine ⟨fun several => ?_, fun only found => ?_⟩
    · rw [Value.ofMatches_of_length_ne_one (by simpa using several)]
    · rw [found]
      rfl

/-- An array of two leaves, an array of one, and an array that holds another. -/
theorem Term.lone_array_agrees_on_members :
    let root : Json := .object [("a", .array [.bool true, .null]), ("b", .array [.string "x"]),
      ("c", .array [.array []])]
    let resolve := fun text => (Term.json text).resolve standardBackends true (.json root)
    resolve "$.a" = .ok (.sequence [.bool true, .null]) ∧
      resolve "$.a[*]" = .ok (.sequence [.bool true, .null]) ∧
      resolve "$.b" = .ok (.sequence [.string "x"]) ∧
      resolve "$.b[*]" = .ok (.scalar (.string "x")) ∧
      resolve "$.c" = .ok (.scalar (.string "[[]]")) := by
  intro root resolve
  have agree (text name : String) (read : Json.Path.compile text = .ok [.key name]) :=
    Term.lone_array_agrees standardBackends rfl true read root
  obtain ⟨found, evaluated, pair, -⟩ := agree "$.a" "a" (by decide)
  obtain rfl := Except.ok.inj evaluated
  obtain ⟨plain, expanded, -⟩ := pair _ rfl (by simp [Json.isLeaf])
  obtain ⟨found, evaluated, lone, -⟩ := agree "$.b" "b" (by decide)
  obtain rfl := Except.ok.inj evaluated
  obtain ⟨alone, -, unpacked⟩ := lone _ rfl (by simp [Json.isLeaf])
  obtain ⟨found, evaluated, -, other⟩ := agree "$.c" "c" (by decide)
  obtain rfl := Except.ok.inj evaluated
  obtain ⟨-, nested⟩ := other (by rintro items ⟨⟩; simp [Json.isLeaf])
  exact ⟨plain, expanded (by decide), alone, unpacked _ rfl, nested _ rfl⟩

end Gleaner
