/-
Where a default comes from. A control has the default that is written in the document for
its property. On the way the default goes through the replacing of references, which
knows no difference between data and schemas, then through decoding, where null counts as
nothing, and through the walker, which takes it as it is.

So the one thing that can happen to a default is that an object in it with a text under
`$ref` is taken for a reference, as everywhere in a document. A default without such an
object arrives as it was written, whatever its kind and however deep it goes. In general
what arrives is the expansion of what was written (`DefaultFrom`).

The property must be reached without going into a reference. What stands at a reference is
the concern of `Proofs/Spec/Transparency.lean`.
-/
import SchemaForms.Proofs.Form.Nodes
import SchemaForms.Proofs.Spec.Order
import SchemaForms.Proofs.Spec.Transparency

set_option autoImplicit false

namespace SchemaForms

/-! ## The default of a decoded property -/

namespace Decode

/-- The schema of a property, and that of its owner, for a property that stands anywhere in
what a schema was decoded from. -/
theorem schema_at_property {source below : Json} {decoded : Schema}
    {position : List SchemaStep} {key : String} (hkeyed : source.WellKeyed)
    (h : schema source = .ok decoded)
    (hbelow : Json.schemaAt? (position ++ [.property key]) source = some below) :
    ∃ owner property, Schema.at? position decoded = some owner ∧
      owner.property? key = some property ∧ schema below = .ok property := by
  obtain ⟨above, habove, hstep⟩ := Json.schemaAt?_append hbelow
  -- The owner is no null, for nothing is inside a null.
  have hnull : above ≠ .null := by
    rintro rfl
    cases hstep
  obtain ⟨owner, howner, hdecoded⟩ := schema_at hkeyed h habove hnull
  obtain ⟨slot, hslot, hinside⟩ := Option.bind_eq_some_iff.1 hstep
  have hproperties : schemaMap slot = .ok owner.properties :=
    schema_field (hkeyed.schemaAt? habove) hdecoded .properties hslot
  cases slot with
  | object members =>
    obtain ⟨property, hproperty, hinner⟩ := namedSchemas_get? hproperties hinside
    exact ⟨owner, property, howner, hproperty, hinner⟩
  | _ => cases hinside

/-- The default of a decoded schema. -/
theorem initial_of_schema {value : Json} {decoded : Schema} (hkeyed : value.WellKeyed)
    (h : schema value = .ok decoded) :
    decoded.initial = (value.field? schemaRecord.keys "default").bind initialValue := by
  cases hslot : value.field? schemaRecord.keys "default" with
  | none => exact schema_field_missing h .initial hslot
  | some slot =>
    have hdecoded : Except.ok (initialValue slot) = Except.ok decoded.initial :=
      schema_field hkeyed h .initial hslot
    exact (Except.ok.inj hdecoded).symm

theorem initialValue_eq_some_iff {value initial : Json} :
    initialValue value = some initial ↔ initial ≠ .null ∧ value = initial := by
  constructor
  · intro h
    cases value with
    | null => cases h
    | _ =>
      obtain rfl := Option.some.inj h
      exact ⟨Json.noConfusion, rfl⟩
  · rintro ⟨hnull, rfl⟩
    cases value with
    | null => exact (hnull rfl).elim
    | _ => rfl

theorem initialValue_eq_none_iff {value : Json} : initialValue value = none ↔ value = .null := by
  cases value <;> simp only [initialValue, reduceCtorEq]

end Decode

/-! ## One default -/

/-- The default of a control, and what the document has under `default` for the property. -/
structure DefaultFrom (root : Json) (written initial : Option Json) : Prop where
  /-- A default is what is written there with its references replaced, and it is not null. -/
  present : ∀ value, initial = some value ↔
    value ≠ .null ∧ ∃ slot, written = some slot ∧ root.Expands slot value
  /-- There is none exactly when nothing is written or what is written stands for null. -/
  absent : initial = none ↔ ∀ slot, written = some slot → root.Expands slot .null
  /-- If there is no reference in it, the default is what is written, and null is none. -/
  verbatim : ∀ slot, written = some slot → slot.ReferenceFree →
    (slot = .null → initial = none) ∧ (slot ≠ .null → initial = some slot)

/-- A decoded schema has the default that was written for it. -/
theorem defaultFrom_of_source {root value result : Json} {decoded : Schema}
    (hsource : Json.Source root value result) (hkeyed : result.WellKeyed)
    (hdecoded : Decode.schema result = .ok decoded) :
    DefaultFrom root (value.field? Decode.schemaRecord.keys "default") decoded.initial := by
  have hinitial := Decode.initial_of_schema hkeyed hdecoded
  have hpresent : ∀ initial, decoded.initial = some initial ↔ initial ≠ .null ∧
      ∃ slot, value.field? Decode.schemaRecord.keys "default" = some slot ∧
        root.Expands slot initial := by
    intro initial
    rw [hinitial, Option.bind_eq_some_iff]
    constructor
    · rintro ⟨slot, hslot, hvalue⟩
      obtain ⟨hnull, rfl⟩ := Decode.initialValue_eq_some_iff.1 hvalue
      exact ⟨hnull, hsource.field? hslot⟩
    · rintro ⟨hnull, below, hbelow, hexpands⟩
      obtain ⟨slot, hslot, hexpands'⟩ := hsource.expands_field? hbelow
      obtain rfl := hexpands'.unique hexpands
      exact ⟨slot, hslot, Decode.initialValue_eq_some_iff.2 ⟨hnull, rfl⟩⟩
  have habsent : decoded.initial = none ↔ ∀ slot,
      value.field? Decode.schemaRecord.keys "default" = some slot →
        root.Expands slot .null := by
    rw [hinitial, Option.bind_eq_none_iff]
    -- A null that is found may have been written, or what was written leads to one.
    constructor
    · intro hnone below hbelow
      obtain ⟨slot, hslot, hexpands⟩ := hsource.expands_field? hbelow
      obtain rfl := Decode.initialValue_eq_none_iff.1 (hnone slot hslot)
      exact hexpands
    · intro hnull slot hslot
      obtain ⟨below, hbelow, hexpands⟩ := hsource.field? hslot
      exact Decode.initialValue_eq_none_iff.2 (hexpands.unique (hnull below hbelow))
  refine ⟨hpresent, habsent, ?_⟩
  intro slot hslot hfree
  have hself : root.Expands slot slot := Json.expands_self hfree
  constructor
  · rintro rfl
    refine habsent.2 fun other hother => ?_
    obtain rfl := Option.some.inj (hslot.symm.trans hother)
    exact hself
  · intro hnull
    exact (hpresent slot).2 ⟨hnull, slot, hslot, hself⟩

/-- A property that is neither object nor array becomes a control. -/
theorem Schema.entryField_of_value (rules : Registry) (owner : Schema) (name : String)
    {property : Schema} (hobject : property.isObject = false) (harray : property.isArray = false) :
    entryField rules owner name property =
      .control name property.initial (rules.validators name owner) := by
  rw [entryField, hobject, if_neg Bool.false_ne_true,
    valueField_of_not_isArray rules owner name harray]

/-- A control of a property has its name and its default. -/
theorem Schema.entryField_eq_control {rules : Registry} {owner property : Schema}
    {name label : String} {initial : Option Json} {validators : List Validator}
    (h : entryField rules owner name property = .control label initial validators) :
    label = name ∧ initial = property.initial := by
  unfold entryField at h
  split at h
  · cases h
  · cases harray : property.isArray with
    | true =>
      rw [valueField_of_isArray rules owner name harray] at h
      cases h
    | false =>
      rw [valueField_of_not_isArray rules owner name harray] at h
      obtain ⟨rfl, rfl, -⟩ := Field.control.inj h
      exact ⟨rfl, rfl⟩

/-! ## The statement -/

/-- **Defaults come from the document.** Let a value be accepted as a specification, and let a
property stand in one of its definitions, reached through no reference and no reference
itself. If the walker compiles its position there is a field at the place of the property,
for any rules. A property that is neither object nor array has a control there; and whenever
there is a control, it has the name of the property and the default that is written for the
property. -/
theorem default_of_property {location : String} {root : Json} {document : Document}
    (hkeyed : root.WellKeyed) (hdocument : Spec.ofValue location root = .ok document)
    {container : List (String × Json)}
    (hcontainer : root.namedSchemas? document = some container) {name : String} {source : Json}
    (hsource : Keyed.get? container name = some source) {position : List SchemaStep}
    {key : String} {property : Json}
    (hplace : Json.openAt? (position ++ [.property key]) source = some property)
    (hplain : property.isReference = false) (rules : Registry) :
    ∃ schemas outer forms form,
      document.schemas? = some schemas ∧ Keyed.get? schemas name = some outer ∧
      document.forms rules = .ok forms ∧ formNamed? forms.value name = some form ∧
      (outer.Compiles .definition (position ++ [.property key]) →
        ∃ inner field, Schema.at? (position ++ [.property key]) outer = some inner ∧
          Part.at? (position ++ [.property key]) outer (.block form.fields) =
            some (.entry field) ∧
          (inner.isObject = false → inner.isArray = false →
            ∃ initial validators, field = .control key initial validators) ∧
          ∀ label initial validators, field = .control label initial validators →
            label = key ∧
            DefaultFrom root (property.field? Decode.schemaRecord.keys "default") initial) := by
  obtain ⟨out, hout, hdecoded⟩ := Spec.ofValue_ok hdocument
  have hroot : root.Expands root out := Json.expands_of_inline hout
  obtain ⟨results, schemas, hresults, hresultsKeyed, hnamed, hschemas⟩ :=
    Decode.schemas?_of_namedSchemas? hroot (hroot.wellKeyed hkeyed hkeyed) hdecoded hcontainer
      hsource
  -- The definition, expanded and then decoded, and the property inside it.
  obtain ⟨copy, hcopy, hexpands⟩ := hresults.get? hsource
  obtain ⟨outer, houter, houterOk⟩ := Decode.namedSchemas_get? hnamed hcopy
  rw [Json.WellKeyed] at hresultsKeyed
  have hcopyKeyed : copy.WellKeyed := hresultsKeyed.2.get? hcopy
  obtain ⟨found, hfound, hfoundExpands⟩ := hexpands.openAt? hplace
  obtain ⟨owner, inner, howner, hinner, hinnerOk⟩ :=
    Decode.schema_at_property hcopyKeyed houterOk hfound
  have hdefault := defaultFrom_of_source ⟨hplain, hfoundExpands⟩ (hcopyKeyed.schemaAt? hfound)
    hinnerOk
  obtain ⟨forms, hforms⟩ : ∃ forms, document.forms rules = .ok forms := by
    rw [Document.forms, hschemas]
    exact ⟨_, rfl⟩
  obtain ⟨form, hform, hfields⟩ := formNamed?_of_forms hschemas hforms houter
  refine ⟨schemas, outer, forms, form, hschemas, houter, hforms, hform, fun hcompiles => ?_⟩
  have hpart := Schema.part_property rules name hcompiles howner hinner
  rw [← hfields] at hpart
  refine ⟨inner, _, Schema.at?_append_of_step? howner hinner, hpart, ?_, ?_⟩
  · intro hobject harray
    exact ⟨_, _, Schema.entryField_of_value rules owner key hobject harray⟩
  · intro label initial validators hcontrol
    obtain ⟨rfl, rfl⟩ := Schema.entryField_eq_control hcontrol
    exact ⟨rfl, hdefault⟩

/-! A property whose default is written as an object that reads as a reference. -/

/-- The default as it is written. -/
def writtenDefault : Json :=
  .object [("$ref", .string "#/home")]

/-- The property, given its default. -/
def linkTarget (initial : Json) : Json :=
  .object [("default", initial)]

/-- The definition, given the default of its property. -/
def linkValue (initial : Json) : Json :=
  .object [("properties", .object [("target", linkTarget initial)])]

def linkRoot (initial : Json) : Json :=
  .object [("definitions", .object [("Link", linkValue initial)]), ("home", .string "/start")]

/-- What the definition is decoded to: the reference stands for a text. -/
def linkSchema : Schema :=
  { properties := [("target", { initial := some (.string "/start") })] }

def linkDocument : Document :=
  { definitions := some [("Link", linkSchema)] }

theorem ofValue_link : Spec.ofValue "a.json" (linkRoot writtenDefault) = .ok linkDocument := by
  have hdefault : Json.Expands (linkRoot writtenDefault) writtenDefault (.string "/start") :=
    .reference rfl rfl (.scalar rfl)
  have htarget : Json.Expands (linkRoot writtenDefault) (linkTarget writtenDefault)
      (linkTarget (.string "/start")) := .object rfl (.cons hdefault .nil)
  have hlink : Json.Expands (linkRoot writtenDefault) (linkValue writtenDefault)
      (linkValue (.string "/start")) :=
    .object rfl (.cons (.object rfl (.cons htarget .nil)) .nil)
  have hroot : Json.Expands (linkRoot writtenDefault) (linkRoot writtenDefault)
      (linkRoot (.string "/start")) :=
    .object rfl (.cons (.object rfl (.cons hlink .nil)) (.cons (.scalar rfl) .nil))
  have hinline : (linkRoot writtenDefault).inlineReferences = .ok (linkRoot (.string "/start")) :=
    hroot.inline_nil _
  have hdocument : Document.ofJson (linkRoot (.string "/start")) = .ok linkDocument := rfl
  simp only [Spec.ofValue, hinline, hdocument]

theorem wellKeyed_link : (linkRoot writtenDefault).WellKeyed := by
  simp [linkRoot, linkValue, linkTarget, writtenDefault, Json.WellKeyed, Json.WellKeyedMembers,
    Keyed.Distinct, Keyed.keys]

theorem default_of_property_link :
    (linkRoot writtenDefault).WellKeyed ∧
    Spec.ofValue "a.json" (linkRoot writtenDefault) = .ok linkDocument ∧
    ∃ forms form, linkDocument.forms .standard = .ok forms ∧
      formNamed? forms.value "Link" = some form ∧
      Part.at? [.property "target"] linkSchema (.block form.fields) =
        some (.entry (.control "target" (some (.string "/start")) [])) ∧
      DefaultFrom (linkRoot writtenDefault) (some writtenDefault) (some (.string "/start")) := by
  obtain ⟨schemas, outer, forms, form, hschemas, houter, hforms, hform, hfield⟩ :=
    default_of_property wellKeyed_link ofValue_link rfl
      (show Keyed.get? _ "Link" = _ from rfl)
      (show Json.openAt? ([] ++ [.property "target"]) _ = _ from rfl) rfl .standard
  obtain rfl := Option.some.inj hschemas
  obtain rfl := Option.some.inj houter
  obtain rfl := Except.ok.inj hforms
  obtain rfl := Option.some.inj hform
  obtain ⟨inner, field, -, hpart, -, hcontrol⟩ := hfield ⟨rfl, _, rfl, trivial⟩
  obtain rfl := Part.entry.inj (Option.some.inj hpart)
  obtain ⟨-, hdefault⟩ := hcontrol _ _ _ rfl
  exact ⟨wellKeyed_link, ofValue_link, _, _, rfl, rfl, rfl, hdefault⟩

/-- **Not every default is what was written.** The property is no reference and is reached
through none, and its control has another default than the one that is written. -/
theorem default_of_link_not_written :
    (linkRoot writtenDefault).WellKeyed ∧
    Spec.ofValue "a.json" (linkRoot writtenDefault) = .ok linkDocument ∧
    (linkRoot writtenDefault).namedSchemas? linkDocument =
      some [("Link", linkValue writtenDefault)] ∧
    Json.openAt? [.property "target"] (linkValue writtenDefault) =
      some (linkTarget writtenDefault) ∧
    (linkTarget writtenDefault).isReference = false ∧
    (linkTarget writtenDefault).field? Decode.schemaRecord.keys "default" = some writtenDefault ∧
    ∃ forms form, linkDocument.forms .standard = .ok forms ∧
      formNamed? forms.value "Link" = some form ∧
      ∃ initial validators, form.fields = [.control "target" initial validators] ∧
        initial ≠ some writtenDefault := by
  refine ⟨wellKeyed_link, ofValue_link, rfl, rfl, rfl, rfl, _, _, rfl, rfl, some (.string "/start"),
    [], rfl, ?_⟩
  intro hsame
  cases hsame

end SchemaForms
