/-
The names of the definitions of a specification. They are the keys of one object of what
the text is read to, in its order: the object under `definitions`, or else the one under
`components` and there under `schemas` (`schemas?_eq_some`). Reading keeps the keys of an
object apart, so does replacing references, and decoding an object of schemas gives one
schema for each member. So the definitions that forms are made from have different names,
which nothing in the type of a document says.
-/
import SchemaForms.Proofs.Spec.Transparency

set_option autoImplicit false

namespace SchemaForms

namespace Decode

theorem optional_schemaMap_eq_some {value : Json} {schemas : Keyed Schema}
    (h : optional schemaMap value = .ok (some schemas)) :
    ∃ members, value = .object members ∧ namedSchemas members = .ok schemas := by
  have hnull : value ≠ .null := by
    rintro rfl
    cases h
  obtain ⟨found, hfound, hdecoded⟩ := optional_ok h hnull
  obtain rfl := Option.some.inj hfound
  cases value with
  | object members => exact ⟨members, rfl, hdecoded⟩
  | _ => cases hdecoded

/-- The definitions of a document are decoded from an object under `definitions`. -/
theorem definitions_eq_some {value : Json} {document : Document} {schemas : Keyed Schema}
    (hkeyed : value.WellKeyed) (hdocument : Document.ofJson value = .ok document)
    (h : document.definitions = some schemas) :
    ∃ members, value.field? documentRecord.keys "definitions" = some (.object members) ∧
      namedSchemas members = .ok schemas := by
  cases hfield : value.field? documentRecord.keys "definitions" with
  | none =>
    rw [Record.decode_missing documentRecord_definitions hfield hdocument] at h
    cases h
  | some definitions =>
    have hdecoded := Record.decode_field documentRecord_definitions hkeyed hfield hdocument
    rw [h] at hdecoded
    obtain ⟨members, rfl, hnamed⟩ := optional_schemaMap_eq_some hdecoded
    exact ⟨members, rfl, hnamed⟩

/-- The schemas of its components are decoded from an object under `schemas`. -/
theorem components_eq_some {value : Json} {document : Document} {schemas : Keyed Schema}
    (hkeyed : value.WellKeyed) (hdocument : Document.ofJson value = .ok document)
    (h : document.components.bind Components.schemas = some schemas) :
    ∃ components members, value.field? documentRecord.keys "components" = some components ∧
      components.field? componentsRecord.keys "schemas" = some (.object members) ∧
      namedSchemas members = .ok schemas := by
  obtain ⟨parts, hparts, hschemas⟩ := Option.bind_eq_some_iff.1 h
  cases houter : value.field? documentRecord.keys "components" with
  | none =>
    rw [Record.decode_missing documentRecord_components houter hdocument] at hparts
    cases hparts
  | some components =>
    have hdecoded := Record.decode_field documentRecord_components hkeyed houter hdocument
    rw [hparts] at hdecoded
    -- Null components would have left none.
    have hnull : components ≠ .null := by
      rintro rfl
      cases hdecoded
    obtain ⟨found, hfound, hdecoded⟩ := optional_ok hdecoded hnull
    obtain rfl := Option.some.inj hfound
    cases hinner : components.field? componentsRecord.keys "schemas" with
    | none =>
      rw [Record.decode_missing componentsRecord_schemas hinner hdecoded] at hschemas
      cases hschemas
    | some slot =>
      have hslot :=
        Record.decode_field componentsRecord_schemas (hkeyed.field? houter) hinner hdecoded
      rw [hschemas] at hslot
      obtain ⟨members, rfl, hnamed⟩ := optional_schemaMap_eq_some hslot
      exact ⟨components, members, rfl, hinner, hnamed⟩

/-- **What forms are made from is decoded from one object**, member by member. -/
theorem schemas?_eq_some {value : Json} {document : Document} {schemas : Keyed Schema}
    (hkeyed : value.WellKeyed) (hdocument : Document.ofJson value = .ok document)
    (h : document.schemas? = some schemas) :
    ∃ members, (value.field? documentRecord.keys "definitions" = some (.object members) ∨
        ∃ components, value.field? documentRecord.keys "components" = some components ∧
          components.field? componentsRecord.keys "schemas" = some (.object members)) ∧
      (Json.object members).WellKeyed ∧ namedSchemas members = .ok schemas := by
  rw [Document.schemas?] at h
  split at h
  · rename_i found hfound
    obtain rfl := Option.some.inj h
    rw [Document.nonempty?, Option.filter_eq_some_iff] at hfound
    obtain ⟨members, hfield, hnamed⟩ := definitions_eq_some hkeyed hdocument hfound.1
    exact ⟨members, .inl hfield, hkeyed.field? hfield, hnamed⟩
  · rw [Document.nonempty?, Option.filter_eq_some_iff] at h
    obtain ⟨components, members, houter, hinner, hnamed⟩ :=
      components_eq_some hkeyed hdocument h.1
    exact ⟨members, .inr ⟨components, houter, hinner⟩,
      (hkeyed.field? houter).field? hinner, hnamed⟩

end Decode

/-- A text that is accepted is read to a value, whose references can be replaced. -/
theorem Spec.parse_eq_ok {location text : String} {parsed : Logged Document}
    (h : Spec.parse location text = .ok parsed) :
    ∃ raw out, (Format.detect location).read? text = some raw ∧
      raw.inlineReferences = .ok out ∧ Document.ofJson out = .ok parsed.value ∧
      out.WellKeyed := by
  cases hread : (Format.detect location).read? text with
  | none =>
    rw [Spec.parse, hread] at h
    cases h
  | some raw =>
    obtain ⟨out, hout, hdocument⟩ := Spec.parse_ok hread h
    have hraw : raw.WellKeyed := Format.read?_wellKeyed hread
    exact ⟨raw, out, rfl, hout, hdocument, (Json.expands_of_inline hout).wellKeyed hraw hraw⟩

/-- **The definitions of a specification have different names.** -/
theorem Spec.definitionNames_nodup {location text : String} {parsed : Logged Document}
    (h : Spec.parse location text = .ok parsed) {names : List String}
    (hnames : parsed.value.definitionNames = .ok names) : names.Nodup := by
  obtain ⟨raw, out, -, -, hdocument, hkeyed⟩ := Spec.parse_eq_ok h
  rw [Document.definitionNames] at hnames
  split at hnames
  · rename_i schemas hschemas
    obtain rfl := Except.ok.inj hnames
    obtain ⟨members, -, hmembers, hnamed⟩ := Decode.schemas?_eq_some hkeyed hdocument hschemas
    rw [Json.WellKeyed] at hmembers
    rw [Decode.keys_namedSchemas hnamed]
    exact hmembers.1
  · cases hnames

end SchemaForms
