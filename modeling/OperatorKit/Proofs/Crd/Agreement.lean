import OperatorKit.Proofs.Crd.Clean
import OperatorKit.Proofs.Schema.Agreement

/-!
What the definitions depend on: of the document, only the schemas of the kinds and what their
references lead to, and of that nothing that only documents. So a change elsewhere, or a change of
descriptions, titles and extensions anywhere, changes no definition and no reason for refusing one.
-/

namespace OperatorKit

open Schema

variable {pointers : Set String} {first second : Json} {kind : ResourceKind} {limit : Nat}

theorem Schema.Alike.seeded {fields others : Fields}
    (alike : Alike pointers (.object fields) (.object others)) :
    Alike pointers (.object (ResourceKind.seeded fields))
      (.object (ResourceKind.seeded others)) := by
  have type : Alike pointers (.object [("type", .string "object")])
      (.object [("type", .string "object")]) := by
    refine ⟨rfl, fun p written => absurd written ?_⟩
    simp [written_object_iff, not_written_scalar, Json.fields?, Json.items?, Keyword.reference]
  exact type.overlay alike

theorem ResourceKind.definition_eq (agree : Agree pointers first second)
    (source : Matches (fun fields others => Alike pointers (.object fields) (.object others))
      (kind.sourceSchema first) (kind.sourceSchema second)) :
    kind.definition first limit = kind.definition second limit := by
  have same : kind.resolved first limit = kind.resolved second limit := by
    unfold ResourceKind.resolved
    generalize kind.sourceSchema first = schema at source
    generalize kind.sourceSchema second = schema' at source
    cases source with
    | failed e => rfl
    | done alike => simp only [resolve_alike agree alike.seeded limit]
  unfold ResourceKind.definition ResourceKind.specSchema
  rw [same]

theorem ResourceKind.sourceSchema_eq (kind : ResourceKind) (document : Json) :
    kind.sourceSchema document =
      fieldsOf (kind.mismatch "path not found in document")
        (kind.mismatch "request body schema is not an object")
        (document.walk? kind.schemaPath) := by
  unfold ResourceKind.sourceSchema
  cases document.walk? kind.schemaPath with
  | none => rfl
  | some v => cases v <;> rfl

theorem ResourceKind.sourceSchema_matches
    (found : Option.Rel (Alike pointers) (first.walk? kind.schemaPath)
      (second.walk? kind.schemaPath)) :
    Matches (fun fields others => Alike pointers (.object fields) (.object others))
      (kind.sourceSchema first) (kind.sourceSchema second) := by
  rw [ResourceKind.sourceSchema_eq, ResourceKind.sourceSchema_eq]
  exact Alike.fieldsOf _ _ found

section Documentation

theorem ResourceKind.schemaPath_plain (kind : ResourceKind) :
    ∀ key ∈ kind.schemaPath, Keyword.isStripped key = false := by
  cases kind <;> decide

/-- Documents that are the same but for documentation give the same definitions, or the same reason
why there are none, as long as no reference leads into documentation; and so do two schemas when
they are resolved, each against its document. -/
theorem generate_of_strip_eq (first second : Json) (limit : Nat) (same : strip first = strip second)
    (plain : ReadsNoDocumentation first) :
    Manifest.generate first limit = Manifest.generate second limit ∧
    ∀ node other, strip node = strip other → ReadsNoDocumentation node →
      resolve first limit node = resolve second limit other := by
  have documents : Alike plainPointers first second := ⟨same, plain⟩
  have agree := documents.agree
  constructor
  · have each : (fun kind : ResourceKind => kind.definition first limit) =
        fun kind => kind.definition second limit := by
      funext kind
      have source := ResourceKind.sourceSchema_matches (documents.walk kind.schemaPath_plain)
      exact ResourceKind.definition_eq agree source
    unfold Manifest.generate
    rw [each]
  · intro node other alike reads
    exact resolve_alike agree ⟨alike, reads⟩ limit

/-- The small document with other descriptions, titles and extensions, one of them with a reference
that leads nowhere. -/
def annotatedDocument : Json :=
  .object [
    ("description", .string "Interface"),
    ("paths", .object [
      requestOf .accessGroup (.object [("properties", .object [("include", .object [("items",
        .object [("oneOf", .array [.object [(Keyword.reference, .string "#/rule")]])])])])]),
      requestOf .tunnel (.object [("title", .string "Body"), (Keyword.reference, .string "#/name")]),
      requestOf .tunnelConfig (.object [(Keyword.reference, .string "#/name")])]),
    ("rule", .object [("properties", .object [("email", .object [
      ("x-see", .object [(Keyword.reference, .string "#/nowhere")]),
      (Keyword.reference, .string "#/name")])])]),
    ("name", .object [("type", .string "string")])]

def describedNode : Json :=
  .object [("description", .string "A rule"), (Keyword.reference, .string "#/rule")]

theorem reads_of_references {v : Json} {texts : List String} (all : references v = texts)
    (plain : ∀ p ∈ texts, p ∈ plainPointers) : ReadsNoDocumentation v := by
  intro p written
  exact plain p (all ▸ mem_references_iff.mpr written.anywhere)

theorem rule_plain : "#/rule" ∈ plainPointers := by
  intro r parsed
  have known : Reference.ofString "#/rule" = .ok ⟨"#/rule", [], "rule"⟩ := rfl
  cases known.symm.trans parsed
  decide

theorem name_plain : "#/name" ∈ plainPointers := by
  intro r parsed
  have known : Reference.ofString "#/name" = .ok ⟨"#/name", [], "name"⟩ := rfl
  cases known.symm.trans parsed
  decide

theorem annotatedDocument_generates :
    strip smallDocument = strip annotatedDocument ∧ ReadsNoDocumentation smallDocument ∧
      Manifest.generate smallDocument 9 = Manifest.generate annotatedDocument 9 ∧
      resolve smallDocument 9 (.object [(Keyword.reference, .string "#/rule")]) =
        resolve annotatedDocument 9 describedNode := by
  have same : strip smallDocument = strip annotatedDocument := rfl
  have reads : ReadsNoDocumentation smallDocument := by
    have all : references smallDocument = ["#/rule", "#/name", "#/name", "#/name"] := rfl
    apply reads_of_references all
    simp [rule_plain, name_plain]
  have node : ReadsNoDocumentation (.object [(Keyword.reference, .string "#/rule")]) := by
    have all : references (.object [(Keyword.reference, .string "#/rule")]) = ["#/rule"] := rfl
    apply reads_of_references all
    simp [rule_plain]
  obtain ⟨generated, resolved⟩ := generate_of_strip_eq smallDocument annotatedDocument 9 same reads
  exact ⟨same, reads, generated, resolved _ describedNode rfl node⟩

end Documentation

section Locality

/-- A kind has the same definition, or the same reason for having none, in two documents that have
the same schema for it and the same targets for all the references in the schema, in their targets,
and so on. What else the documents hold does not matter. -/
theorem definition_of_references (kind : ResourceKind) (limit : Nat) (first second : Json)
    (pointers : Set String)
    (schema : first.walk? kind.schemaPath = second.walk? kind.schemaPath)
    (start : ∀ v, first.walk? kind.schemaPath = some v →
      ∀ p, Written Json.everyKey v (.string p) → p ∈ pointers)
    (closed : ∀ p ∈ pointers, ∀ r v, Reference.ofString p = .ok r → first.lookup r = .ok v →
      ∀ q, Written Json.everyKey v (.string q) → q ∈ pointers)
    (targets : ∀ p ∈ pointers, ∀ r, Reference.ofString p = .ok r →
      first.lookup r = second.lookup r) :
    kind.definition first limit = kind.definition second limit := by
  have agree : Agree pointers first second := by
    intro p member r parsed
    unfold target
    rw [← targets p member r parsed]
    cases found : first.lookup r with
    | error e => exact .failed e
    | ok v =>
      cases v with
      | object fields =>
        refine .done ⟨rfl, fun q written => ?_⟩
        exact closed p member r _ parsed found q written.anywhere
      | _ => exact .failed _
  refine ResourceKind.definition_eq agree (ResourceKind.sourceSchema_matches ?_)
  rw [← schema]
  cases found : first.walk? kind.schemaPath with
  | none => exact .none
  | some v => exact .some ⟨rfl, fun p written => start v found p written.anywhere⟩

def tunnelDocument : Json :=
  .object [
    ("paths", .object [requestOf .tunnel (.object [(Keyword.reference, .string "#/name")])]),
    ("name", .object [("type", .string "string"), ("x-order", .null), ("readOnly", .bool true)])]

theorem tunnelDocument_defines :
    ResourceKind.tunnel.definition smallDocument 9 = ResourceKind.tunnel.definition tunnelDocument 9 ∧
      ∃ crd, ResourceKind.tunnel.definition tunnelDocument 9 = .ok crd := by
  have name : Reference.ofString "#/name" = .ok ⟨"#/name", [], "name"⟩ := rfl
  refine ⟨definition_of_references .tunnel 9 smallDocument tunnelDocument {"#/name"} rfl ?_ ?_ ?_,
    _, rfl⟩
  · rintro v found p written
    cases found
    have member := mem_references_iff.mpr written
    exact List.mem_singleton.mp member
  · rintro p rfl r v parsed found q written
    cases name.symm.trans parsed
    cases found
    exact absurd (mem_references_iff.mpr written) (List.not_mem_nil)
  · rintro p rfl r parsed
    cases name.symm.trans parsed
    rfl

end Locality

end OperatorKit
