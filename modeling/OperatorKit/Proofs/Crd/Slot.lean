import OperatorKit.Crd.Envelope
import OperatorKit.Proofs.Json.Location

/-!
The slot of an envelope, in any value. Where the slot exists, what is put there is read there, putting
back what is read changes nothing and the last of several schemas counts; every other place stays as
it is. Where it does not exist nothing is changed and nothing is read. In the envelope of some names
the slot is null, and the names are read back from beside it.
-/

namespace OperatorKit

namespace Json.Decoder

theorem take_strings (texts : List String) : (list string).take (.strings texts) = .ok texts := by
  change (texts.map Json.string).mapM string.take = .ok texts
  induction texts with
  | nil => rfl
  | cons text rest ih =>
    rw [List.map_cons, List.mapM_cons, ih]
    rfl

theorem Shape.takeByName_cons {σ α : Type} {shape : Shape σ α} {state next : σ} {f : Field σ}
    {key : String} {v : Json} {rest : Fields}
    (named : shape.fields.find? (·.name = key) = some f) (missing : f.given state = false)
    (taken : f.take state v = .ok next) :
    shape.takeByName state ((key, v) :: rest) = shape.takeByName next rest := by
  simp only [takeByName, named, missing, taken, Bool.false_eq_true, if_false]

end Json.Decoder

theorem ResourceNames.take_toJson (names : ResourceNames) :
    decoder.take names.toJson = .ok names := by
  have categories := Json.Decoder.take_strings names.categories
  dsimp only [decoder, toJson, Json.Decoder.record]
  rw [Json.Decoder.Shape.takeByName_cons (by rfl) (by rfl) (congrArg (Except.map _) categories)]
  rfl

namespace Envelope

structure Embeds (envelope schema : Json) : Prop where
  slotted : (embed envelope schema).at? slot = some schema
  shown : schema ≠ .null → embedded? (embed envelope schema) = some schema
  hidden : schema = .null → embedded? (embed envelope schema) = none
  beside : ∀ path, Json.Apart slot path → (embed envelope schema).at? path = envelope.at? path
  /-- Also the values that the slot stands in keep their keys and lengths. -/
  outside : ∀ path, ¬ slot <+: path →
    ((embed envelope schema).at? path).map Json.surface = (envelope.at? path).map Json.surface
  replaced : ∀ later, embed (embed envelope schema) later = embed envelope later

variable {envelope schema found : Json}

theorem embedded?_of_at? (slotted : envelope.at? slot = some schema) (present : schema ≠ .null) :
    embedded? envelope = some schema := by
  cases schema with
  | null => exact absurd rfl present
  | _ => rw [embedded?, slotted]

theorem embeds_of_at? (there : envelope.at? slot = some found) (schema : Json) :
    Embeds envelope schema where
  slotted := Json.at?_setAt there
  shown := embedded?_of_at? (Json.at?_setAt there)
  hidden := by
    rintro rfl
    rw [embedded?, embed, Json.at?_setAt there]
  beside _ apart := Json.at?_setAt_of_apart apart
  outside _ away := Json.surface_at?_setAt away
  replaced later := Json.setAt_setAt envelope schema later slot

/-- The slot is read and written like a field of its own in any value that has it, and not at all in
one that has not. In the envelope of any names it is there and null, and the names can be read. -/
theorem slot_laws (envelope : Json) (names : ResourceNames) :
    (∀ found, envelope.at? slot = some found →
      embed envelope found = envelope ∧ ∀ schema, Embeds envelope schema) ∧
    (envelope.at? slot = none →
      embedded? envelope = none ∧ ∀ schema, embed envelope schema = envelope) ∧
    (build names).at? slot = some .null ∧
    ((build names).at? ["spec", "names"]).map ResourceNames.decoder.take = some (.ok names) := by
  refine ⟨fun found there => ?_, fun missed => ?_, rfl, ?_⟩
  · exact ⟨Json.setAt_at? there, embeds_of_at? there⟩
  · exact ⟨by rw [embedded?, missed], fun _ => Json.setAt_of_none missed⟩
  · exact congrArg some names.take_toJson

def keyedEnvelope : Json :=
  .object [("spec", .object [("versions", .object [("1", .null), ("0", .object [("schema",
    .object [("openAPIV3Schema", .object [("properties",
      .object [("spec", .ofInt 1), ("status", .null)])])])])])])]

theorem keyedEnvelope_embeds :
    keyedEnvelope.at? slot = some (.ofInt 1) ∧ embed keyedEnvelope (.ofInt 1) = keyedEnvelope ∧
      Embeds keyedEnvelope .null ∧ (Json.array [keyedEnvelope]).at? slot = none ∧
      embedded? (.array [keyedEnvelope]) = none ∧
      embed (.array [keyedEnvelope]) .null = .array [keyedEnvelope] := by
  have there : keyedEnvelope.at? slot = some (.ofInt 1) := rfl
  have missed : (Json.array [keyedEnvelope]).at? slot = none := rfl
  obtain ⟨laws, _⟩ := slot_laws keyedEnvelope (.cloudflare "Foo" "foo")
  obtain ⟨_, nothing, _⟩ := slot_laws (.array [keyedEnvelope]) (.cloudflare "Foo" "foo")
  obtain ⟨same, embeds⟩ := laws _ there
  obtain ⟨unread, unchanged⟩ := nothing missed
  exact ⟨there, same, embeds .null, missed, unread, unchanged .null⟩

end Envelope

end OperatorKit
