import Gleaner.Engine
import Gleaner.Proofs.Json.Reading

/-!
# Loading sources

A source of no declared kind is always loaded.  Blanks in front of it do not change what it looks
like, but only the four characters that JSON has for space may stand in front of JSON: behind any
other blank it is loaded as markup or as text.
-/

namespace Gleaner

section

variable {blanks text : List Char}

namespace DocumentKind

private theorem hasClosingTag_append (blank : ∀ c ∈ blanks, Text.isBlank c = true) :
    hasClosingTag (blanks ++ text) = hasClosingTag text := by
  induction blanks with
  | nil => rfl
  | cons c blanks ih =>
      obtain ⟨here, behind⟩ := List.forall_mem_cons.mp blank
      have differ : c ≠ '<' := by
        rintro rfl
        contradiction
      rw [← ih behind]
      simp [hasClosingTag, Text.occurs, differ.symm]

private theorem hasClosingTag_behind {blanks : String}
    (blank : ∀ c ∈ blanks.toList, Text.isBlank c = true) (source : String) :
    hasClosingTag (blanks ++ source).toList = hasClosingTag source.toList := by
  rw [String.toList_append, hasClosingTag_append blank]

/-- Blanks in front do not change what a source looks like. -/
theorem infer_append {blanks source : String} (blank : ∀ c ∈ blanks.toList, Text.isBlank c = true) :
    infer (blanks ++ source) = infer source := by
  rw [infer, infer, String.toList_append, inferChars, inferChars, Text.trimStart_append blank,
    hasClosingTag_append blank]

end DocumentKind

end

namespace Engine

variable {Tree : Type}

/-- What a source of no declared kind is loaded as. -/
inductive Loads (engine : Engine Tree) (source : String) : Document Tree → Prop
  /-- It looks like markup. -/
  | markup (looks : DocumentKind.infer source = .html) :
      Loads engine source (engine.loadMarkup source)
  /-- It looks like text. -/
  | text (looks : DocumentKind.infer source = .text) : Loads engine source (.text source)
  /-- It is JSON. -/
  | json {root : Json} (looks : DocumentKind.infer source = .json)
      (read : Json.parse source = .ok root) : Loads engine source (.json root)
  /-- It only looks like JSON and holds a closing tag. -/
  | tagged {error : Json.SyntaxError} (looks : DocumentKind.infer source = .json)
      (broken : Json.parse source = .error error)
      (closes : DocumentKind.hasClosingTag source.toList = true) :
      Loads engine source (engine.loadMarkup source)
  /-- It only looks like JSON and holds no closing tag. -/
  | untagged {error : Json.SyntaxError} (looks : DocumentKind.infer source = .json)
      (broken : Json.parse source = .error error)
      (bare : DocumentKind.hasClosingTag source.toList = false) :
      Loads engine source (.text source)

theorem Loads.load_eq {engine : Engine Tree} {source : String} {document : Document Tree}
    (loads : engine.Loads source document) : engine.load source none = .ok document := by
  cases loads with
  | markup looks => simp [load, looks]
  | text looks => simp [load, looks]
  | json looks read => simp [load, looks, read]
  | tagged looks broken closes => simp [load, looks, broken, closes]
  | untagged looks broken bare => simp [load, looks, broken, bare]

theorem exists_loads (engine : Engine Tree) (source : String) :
    ∃ document, engine.Loads source document := by
  cases looks : DocumentKind.infer source with
  | html => exact ⟨_, .markup looks⟩
  | text => exact ⟨_, .text looks⟩
  | json =>
      cases read : Json.parse source with
      | ok root => exact ⟨_, .json looks read⟩
      | error error =>
          cases closes : DocumentKind.hasClosingTag source.toList with
          | true => exact ⟨_, .tagged looks read closes⟩
          | false => exact ⟨_, .untagged looks read closes⟩

private theorem exists_parse_append_eq_error {blanks source : String} {error : Json.SyntaxError}
    (blank : ∀ c ∈ blanks.toList, Text.isBlank c = true)
    (broken : Json.parse source = .error error) :
    ∃ error, Json.parse (blanks ++ source) = .error error := by
  by_cases space : ∀ c ∈ blanks.toList, Json.isSpace c = true
  · exact ⟨error, (Json.parse_spaces_append space).trans broken⟩
  · exact ⟨_, Json.parse_of_stray_blank blank space⟩

section

variable {engine : Engine Tree} {blanks source : String} {plain : Document Tree}

/-- Space of JSON makes no difference to any source, and other blanks make none to a source that is
no JSON. -/
private theorem Loads.behind_blanks (loads : engine.Loads source plain)
    (blank : ∀ c ∈ blanks.toList, Text.isBlank c = true)
    (space : plain.kind = .json → ∀ c ∈ blanks.toList, Json.isSpace c = true) :
    ∃ indented, engine.Loads (blanks ++ source) indented ∧ indented.kind = plain.kind := by
  have same : DocumentKind.infer (blanks ++ source) = DocumentKind.infer source :=
    DocumentKind.infer_append blank
  have tag := DocumentKind.hasClosingTag_behind blank source
  cases loads with
  | markup looks => exact ⟨_, .markup (same.trans looks), rfl⟩
  | text looks => exact ⟨_, .text (same.trans looks), rfl⟩
  | json looks read =>
      exact ⟨_, .json (same.trans looks) ((Json.parse_spaces_append (space rfl)).trans read), rfl⟩
  | tagged looks broken closes =>
      obtain ⟨error, refused⟩ := exists_parse_append_eq_error blank broken
      exact ⟨_, .tagged (same.trans looks) refused (tag.trans closes), rfl⟩
  | untagged looks broken bare =>
      obtain ⟨error, refused⟩ := exists_parse_append_eq_error blank broken
      exact ⟨_, .untagged (same.trans looks) refused (tag.trans bare), rfl⟩

private theorem Loads.behind_stray_blank (loads : engine.Loads source plain)
    (json : plain.kind = .json) (blank : ∀ c ∈ blanks.toList, Text.isBlank c = true)
    (stray : ¬∀ c ∈ blanks.toList, Json.isSpace c = true) :
    ∃ indented, engine.Loads (blanks ++ source) indented ∧
      indented.kind = if DocumentKind.hasClosingTag source.toList then .html else .text := by
  have refused : Json.parse (blanks ++ source) = _ := Json.parse_of_stray_blank blank stray
  have tag := DocumentKind.hasClosingTag_behind blank source
  cases loads with
  | json looks read =>
      have same := (DocumentKind.infer_append blank).trans looks
      cases closes : DocumentKind.hasClosingTag source.toList with
      | true => exact ⟨_, .tagged same refused (tag.trans closes), rfl⟩
      | false => exact ⟨_, .untagged same refused (tag.trans closes), rfl⟩
  | _ => contradiction

end

/-- Blanks in front of a source make no difference to the kind of the document that it is loaded
as, unless it is JSON and one of them is no space of JSON.  It is then loaded as markup or as
text. -/
theorem load_behind_blanks (engine : Engine Tree) (blanks source : String)
    (blank : ∀ c ∈ blanks.toList, Text.isBlank c = true) :
    ∃ plain indented, engine.load source none = .ok plain ∧
      engine.load (blanks ++ source) none = .ok indented ∧
      (indented.kind = plain.kind ↔
        (plain.kind = .json → ∀ c ∈ blanks.toList, Json.isSpace c = true)) ∧
      (indented.kind ≠ plain.kind →
        indented.kind = if DocumentKind.hasClosingTag source.toList then .html else .text) := by
  obtain ⟨plain, loads⟩ := engine.exists_loads source
  by_cases space : plain.kind = .json → ∀ c ∈ blanks.toList, Json.isSpace c = true
  · obtain ⟨indented, behind, same⟩ := loads.behind_blanks blank space
    exact ⟨plain, indented, loads.load_eq, behind.load_eq, iff_of_true same space,
      fun differ => absurd same differ⟩
  · obtain ⟨json, stray⟩ := Classical.not_imp.mp space
    obtain ⟨indented, behind, other⟩ := loads.behind_stray_blank json blank stray
    have differ : indented.kind ≠ plain.kind := by
      rw [other, json]
      split <;> decide
    exact ⟨plain, indented, loads.load_eq, behind.load_eq, iff_of_false differ space,
      fun _ => other⟩

/-- An array and a closing tag behind space and behind a no-break space. -/
theorem load_behind_line_feed :
    let backends : Backends Unit :=
      { markup := { load := fun _ => (), queryAll := fun _ _ _ => .ok [] }
        path := jsonPathBackend }
    let engine := build {} backends
    let source := "[\"</b>\"]"
    ∃ plain indented shifted, engine.load source none = .ok plain ∧
      engine.load ("\n\t" ++ source) none = .ok indented ∧
      engine.load ("\n\u00a0" ++ source) none = .ok shifted ∧
      plain.kind = .json ∧ indented.kind = .json ∧ shifted.kind = .html := by
  intro backends engine source
  have reads : (Json.parse source).isOk = true := by decide +kernel
  obtain ⟨root, parsed⟩ : ∃ root, Json.parse source = .ok root := by
    cases parsed : Json.parse source with
    | ok root => exact ⟨root, rfl⟩
    | error error => simp [parsed, Except.isOk, Except.toBool] at reads
  have read : engine.load source none = .ok (.json root) := Loads.load_eq (.json (by decide) parsed)
  obtain ⟨plain, indented, loaded, behind, same, -⟩ :=
    load_behind_blanks engine "\n\t" source (List.all_eq_true.mp (by decide))
  obtain ⟨_, shifted, again, stray, differ, other⟩ :=
    load_behind_blanks engine "\n\u00a0" source (List.all_eq_true.mp (by decide))
  obtain rfl := Except.ok.inj (read.symm.trans loaded)
  obtain rfl := Except.ok.inj (read.symm.trans again)
  have kept := same.mpr fun _ => List.all_eq_true.mp (by decide)
  have lost : shifted.kind ≠ .json := fun kind =>
    absurd (differ.mp kind rfl '\u00a0' (by decide)) (by decide)
  exact ⟨_, indented, shifted, loaded, behind, stray, rfl, kept, (other lost).trans (by decide)⟩

/-- A no-break space in front of an empty object makes it text. -/
theorem load_behind_no_break_space :
    let backends : Backends Unit :=
      { markup := { load := fun _ => (), queryAll := fun _ _ _ => .ok [] }
        path := jsonPathBackend }
    let engine := build {} backends
    let blanks := "\u00a0"
    let source := "\x7b\x7d"
    (∀ c ∈ blanks.toList, Text.isBlank c = true) ∧
      engine.load source none = .ok (.json (.object [])) ∧
      engine.load (blanks ++ source) none = .ok (.text (blanks ++ source)) := by
  intro backends engine blanks source
  have verbatim : Json.parseVerbatim "\x7b\x7d" = .ok (.object []) := rfl
  have object : Json.parse "\x7b\x7d" = .ok (.object []) := by
    simp [Json.parse, verbatim, Except.map, Json.distinct, Json.distinctMembers]
  have refused : Json.parse ("\u00a0" ++ "\x7b\x7d") = .error .unexpectedCharacter := rfl
  exact ⟨List.all_eq_true.mp (by decide), Loads.load_eq (.json (by decide) object),
    Loads.load_eq (.untagged (by decide) refused (by decide))⟩

end Engine

end Gleaner
