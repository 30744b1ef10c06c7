/-
A reference to a definition reads as the definition. Three stages lie between the two:
references are replaced, the result is decoded, and the schemas are compiled. A copy that
replaces a reference is the expansion of the definition and depends on nothing around it;
decoding sees equal values and gives equal schemas; and what the walker makes of a schema
does not depend on the definition it is found in, except that the rules look at the
owner of a property that is no object.

So wherever a reference stands that the walker gets to, the form has there what the form
of the definition itself is made of.
-/
import SchemaForms.Proofs.Form.Place

set_option autoImplicit false

namespace SchemaForms

open Decode

/-! ## The named schemas of a document, raw and decoded -/

namespace Json

/-- The members of an object that is no reference. -/
def openMembers? : Json → Option (List (String × Json))
  | object members => if (referenceOf? members).isSome then none else some members
  | _ => none

/-- The named schemas that the forms of a document are made from, as they stand in the
raw value: under `definitions` if the document has any there, else under `components`.
No reference is gone into on the way. -/
def namedSchemas? (root : Json) (document : Document) : Option (List (String × Json)) :=
  match Document.nonempty? document.definitions with
  | some _ => (root.openField? documentRecord.keys "definitions").bind openMembers?
  | none =>
    ((root.openField? documentRecord.keys "components").bind fun components =>
      components.openField? componentsRecord.keys "schemas").bind openMembers?

theorem Expands.openMembers? {root value result : Json} {members : List (String × Json)}
    (h : Expands root value result) (hmembers : value.openMembers? = some members) :
    ∃ results, result = .object results ∧ ExpandsMembers root members results := by
  cases value with
  | object inner =>
    rw [Json.openMembers?] at hmembers
    split at hmembers
    · cases hmembers
    · rename_i hplain
      obtain rfl := Option.some.inj hmembers
      exact h.of_object (Option.not_isSome_iff_eq_none.1 hplain)
  | _ => cases hmembers

end Json

namespace Decode

theorem documentRecord_definitions :
    documentRecord.PartOf Document.definitions "definitions"
      (fun document value => do
        return { document with definitions := ← optional schemaMap value })
      (fun value part => optional schemaMap value = .ok part) where
  distinct := by decide
  declared := List.mem_cons_self
  written h :=
    Record.written_of_set (fun document definitions => { document with definitions })
      (fun _ _ => rfl) h
  kept := by
    intro other write' hmem hother sofar value result h
    simp only [documentRecord, List.mem_cons, List.not_mem_nil, or_false, Prod.mk.injEq] at hmem
    rcases hmem with ⟨rfl, rfl⟩ | ⟨rfl, rfl⟩ | ⟨rfl, rfl⟩
    · exact (hother rfl).elim
    · exact Record.kept_of_set (fun document components => { document with components })
        (fun _ _ => rfl) h
    · exact Record.kept_of_set (fun document info => { document with info }) (fun _ _ => rfl) h

theorem documentRecord_components :
    documentRecord.PartOf Document.components "components"
      (fun document value => do
        return { document with components := ← optional (componentsRecord.decode {}) value })
      (fun value part => optional (componentsRecord.decode {}) value = .ok part) where
  distinct := by decide
  declared := List.mem_cons_of_mem _ List.mem_cons_self
  written h :=
    Record.written_of_set (fun document components => { document with components })
      (fun _ _ => rfl) h
  kept := by
    intro other write' hmem hother sofar value result h
    simp only [documentRecord, List.mem_cons, List.not_mem_nil, or_false, Prod.mk.injEq] at hmem
    rcases hmem with ⟨rfl, rfl⟩ | ⟨rfl, rfl⟩ | ⟨rfl, rfl⟩
    · exact Record.kept_of_set (fun document definitions => { document with definitions })
        (fun _ _ => rfl) h
    · exact (hother rfl).elim
    · exact Record.kept_of_set (fun document info => { document with info }) (fun _ _ => rfl) h

theorem documentRecord_info :
    documentRecord.PartOf Document.info "info"
      (fun document value => do
        return { document with info := ← optional (infoRecord.decode {}) value })
      (fun value part => optional (infoRecord.decode {}) value = .ok part) where
  distinct := by decide
  declared := List.mem_cons_of_mem _ (List.mem_cons_of_mem _ List.mem_cons_self)
  written h :=
    Record.written_of_set (fun document info => { document with info }) (fun _ _ => rfl) h
  kept := by
    intro other write' hmem hother sofar value result h
    simp only [documentRecord, List.mem_cons, List.not_mem_nil, or_false, Prod.mk.injEq] at hmem
    rcases hmem with ⟨rfl, rfl⟩ | ⟨rfl, rfl⟩ | ⟨rfl, rfl⟩
    · exact Record.kept_of_set (fun document definitions => { document with definitions })
        (fun _ _ => rfl) h
    · exact Record.kept_of_set (fun document components => { document with components })
        (fun _ _ => rfl) h
    · exact (hother rfl).elim

theorem infoRecord_title :
    infoRecord.PartOf Info.title "title"
      (fun info value => do return { info with title := ← optional text value })
      (fun value part => optional text value = .ok part) where
  distinct := by decide
  declared := List.mem_cons_self
  written := by
    intro sofar value result h
    obtain ⟨title, htitle, h⟩ := bind_ok h
    obtain rfl := Except.ok.inj h
    exact htitle
  kept := by
    intro other write' hmem hother sofar value result h
    obtain ⟨rfl, rfl⟩ := Prod.mk.inj (List.mem_singleton.1 hmem)
    exact (hother rfl).elim

theorem componentsRecord_schemas :
    componentsRecord.PartOf Components.schemas "schemas"
      (fun parts value => do return { parts with schemas := ← optional schemaMap value })
      (fun value part => optional schemaMap value = .ok part) where
  distinct := by decide
  declared := List.mem_cons_self
  written := by
    intro sofar value result h
    obtain ⟨schemas, hschemas, h⟩ := bind_ok h
    obtain rfl := Except.ok.inj h
    exact hschemas
  kept := by
    intro other write' hmem hother sofar value result h
    obtain ⟨rfl, rfl⟩ := Prod.mk.inj (List.mem_singleton.1 hmem)
    exact (hother rfl).elim

theorem namedSchemas_ne_nil {members : List (String × Json)} {schemas : List (String × Schema)}
    (h : namedSchemas members = .ok schemas) {name : String} {value : Json}
    (hvalue : Keyed.get? members name = some value) : schemas ≠ [] := by
  obtain ⟨inner, hinner, -⟩ := namedSchemas_get? h hvalue
  rintro rfl
  cases hinner

/-- The named schemas of a document are decoded from what replaces the raw ones. -/
theorem schemas?_of_namedSchemas? {root out : Json} {document : Document}
    {container : List (String × Json)} (hroot : Json.Expands root root out)
    (hkeyed : out.WellKeyed) (hdocument : Document.ofJson out = .ok document)
    (hcontainer : root.namedSchemas? document = some container) {name : String} {value : Json}
    (hvalue : Keyed.get? container name = some value) :
    ∃ results schemas, Json.ExpandsMembers root container results ∧
      (Json.object results).WellKeyed ∧
      namedSchemas results = .ok schemas ∧ document.schemas? = some schemas := by
  unfold Json.namedSchemas? at hcontainer
  split at hcontainer
  · -- There are definitions, so whatever components there are play no part.
    rename_i schemas hnonempty
    obtain ⟨raw, hraw, hmembers⟩ := Option.bind_eq_some_iff.1 hcontainer
    obtain ⟨slot, hslot, hexpands⟩ := hroot.field? hraw
    obtain ⟨results, rfl, hresults⟩ := hexpands.openMembers? hmembers
    have hdecoded := Record.decode_field documentRecord_definitions hkeyed hslot hdocument
    obtain ⟨found, hfound, hnamed⟩ := optional_ok hdecoded Json.noConfusion
    have hsame : found = schemas := by
      rw [hfound, Document.nonempty?, Option.filter_eq_some_iff] at hnonempty
      exact Option.some.inj hnonempty.1
    refine ⟨results, schemas, hresults, hkeyed.field? hslot, hsame ▸ hnamed, ?_⟩
    rw [Document.schemas?, hnonempty]
  · -- There are none. The components hold the name asked for, so they are not empty.
    rename_i hempty
    obtain ⟨raw, hraw, hmembers⟩ := Option.bind_eq_some_iff.1 hcontainer
    obtain ⟨components, hcomponents, hraw⟩ := Option.bind_eq_some_iff.1 hraw
    obtain ⟨outer, houter, hexpands⟩ := hroot.field? hcomponents
    obtain ⟨slot, hslot, hexpands⟩ := hexpands.field? hraw
    obtain ⟨results, rfl, hresults⟩ := hexpands.openMembers? hmembers
    have houterNull : outer ≠ .null := by
      rintro rfl
      cases hslot
    have houterKeyed : outer.WellKeyed := hkeyed.field? houter
    have hdecoded := Record.decode_field documentRecord_components hkeyed houter hdocument
    obtain ⟨parts, hparts, hdecoded⟩ := optional_ok hdecoded houterNull
    have hinner := Record.decode_field componentsRecord_schemas houterKeyed hslot hdecoded
    obtain ⟨found, hfound, hnamed⟩ := optional_ok hinner Json.noConfusion
    obtain ⟨value', hvalue', -⟩ := hresults.get? hvalue
    refine ⟨results, found, hresults, houterKeyed.field? hslot, hnamed, ?_⟩
    rw [Document.schemas?, hempty, hparts]
    simp only [Option.bind_some, hfound]
    rw [Document.nonempty?, Option.filter_eq_some_iff]
    refine ⟨rfl, ?_⟩
    rw [Bool.not_eq_true', List.isEmpty_eq_false_iff]
    exact namedSchemas_ne_nil hnamed hvalue'

end Decode

/-! ## What an accepted text gives -/

/-- A value that is accepted has its references replaced and is then decoded. -/
theorem Spec.ofValue_ok {location : String} {root : Json} {document : Document}
    (h : Spec.ofValue location root = .ok document) :
    ∃ out, root.inlineReferences = .ok out ∧ Document.ofJson out = .ok document := by
  unfold Spec.ofValue at h
  split at h
  · cases h
  · rename_i out hout
    split at h
    · cases h
    · rename_i found hfound
      obtain rfl := Except.ok.inj h
      exact ⟨out, hout, hfound⟩

/-- The same for a text that is read. -/
theorem Spec.parse_ok {location text : String} {raw : Json} {parsed : Logged Document}
    (hread : (Format.detect location).read? text = some raw)
    (hparse : Spec.parse location text = .ok parsed) :
    ∃ out, raw.inlineReferences = .ok out ∧ Document.ofJson out = .ok parsed.value := by
  simp only [Spec.parse, hread] at hparse
  split at hparse
  · cases hparse
  · rename_i document hvalue
    obtain rfl := Except.ok.inj hparse
    exact Spec.ofValue_ok hvalue

/-- The form of a name among the forms of a document. -/
def formNamed? (forms : List Form) (name : String) : Option Form :=
  forms.find? (·.definition == name)

theorem formNamed?_ofDefinitions (rules : Registry) {schemas : List (String × Schema)}
    {name : String} {schema : Schema} (h : Keyed.get? schemas name = some schema) :
    formNamed? (Form.ofDefinitions rules schemas).value name =
      some (Form.ofDefinition rules name schema).value := by
  induction schemas with
  | nil => cases h
  | cons entry rest ih =>
    obtain ⟨k, first⟩ := entry
    rw [Keyed.get?, List.lookup_cons] at h
    simp only [Form.ofDefinitions, Logged.value_bind, Logged.value_pure, formNamed?] at ih ⊢
    have hname : (Form.ofDefinition rules k first).value.definition = k := rfl
    rw [List.find?_cons, hname]
    split at h
    · rename_i hk
      obtain rfl := eq_of_beq hk
      obtain rfl := Option.some.inj h
      rw [beq_self_eq_true]
    · rename_i hk
      rw [BEq.comm, hk]
      exact ih h

/-- The form of a definition of the document. -/
theorem formNamed?_of_forms {rules : Registry} {document : Document}
    {schemas : List (String × Schema)} {forms : Logged (List Form)}
    (hschemas : document.schemas? = some schemas) (hforms : document.forms rules = .ok forms)
    {name : String} {schema : Schema} (h : Keyed.get? schemas name = some schema) :
    ∃ form, formNamed? forms.value name = some form ∧
      form.fields = (schema.fields rules name).value := by
  rw [Document.forms, hschemas] at hforms
  obtain rfl := Except.ok.inj hforms
  exact ⟨_, formNamed?_ofDefinitions rules h, rfl⟩

/-! ## References read as definitions -/

/-- How a position of the schema `user`, with the form `form`, shows the schema
`definition` whose own form is `own`: in a branch as its fields, elsewhere as a group of
its fields if it is an object, and else as the field it gives by itself. -/
structure ReadsAs (rules : Registry) (definition : Schema) (own : List Field) (user : Schema)
    (form : List Field) (position : List SchemaStep) : Prop where
  whole : position = [] → form = own
  branch : ∀ outer index, position = outer ++ [.branch index] →
    Part.at? position user (.block form) = some (.block own)
  property : ∀ outer key owner, position = outer ++ [.property key] →
    Schema.at? outer user = some owner →
      Part.at? position user (.block form) =
        some (.entry (if definition.isObject then .group key own
          else (Schema.valueField rules owner key definition).value))
  /-- Items take the key of the array they are in, which is the only thing around them
  that they take notice of. -/
  items : ∀ outer key around, position = outer ++ [.items] →
    user.settingAt .definition outer = .entry key around →
      Part.at? position user (.block form) =
        some (.entry (if definition.isObject then .group key own
          else (Schema.valueField rules (.wrapping key definition) key definition).value))

/-- The field of a schema in terms of the fields of its form. -/
theorem Schema.entryField_eq (rules : Registry) {definition : Schema} {own : List Field}
    {name : String} (hown : own = (definition.fields rules name).value) (owner : Schema)
    (key : String) :
    Schema.entryField rules owner key definition =
      if definition.isObject then .group key own
      else (Schema.valueField rules owner key definition).value := by
  rw [Schema.entryField, hown, Schema.fields_value_congr rules key name]

/-- A schema that stands at a compiled position shows what its own form is made of. -/
theorem ReadsAs.of_compiles (rules : Registry) {definition user : Schema} {own : List Field}
    {form : List Field} {name : String} {position : List SchemaStep} {outside : String}
    (hown : own = (definition.fields rules name).value)
    (hform : form = (user.fields rules outside).value)
    (hat : Schema.at? position user = some definition)
    (hcompiles : user.Compiles .definition position) :
    ReadsAs rules definition own user form position := by
  have hpart : Part.at? position user (.block form) =
      some (definition.part rules (user.settingAt .definition position)) := by
    rw [hform, Schema.fields_value_congr rules outside ""]
    exact Schema.part_at rules hcompiles hat
  refine ⟨?_, ?_, ?_, ?_⟩
  · rintro rfl
    obtain rfl := Option.some.inj hat
    rw [hform, hown, Schema.fields_value_congr rules outside name]
  · rintro outer index rfl
    obtain ⟨owner, howner, hstep⟩ := Schema.at?_append hat
    rw [hpart, Schema.settingAt_append howner hstep]
    show some (Part.block (definition.fields rules "").value) = some (.block own)
    rw [hown, Schema.fields_value_congr rules "" name]
  · rintro outer key owner rfl howner
    obtain ⟨owner', howner', hstep⟩ := Schema.at?_append hat
    obtain rfl := Option.some.inj (howner'.symm.trans howner)
    rw [hpart, Schema.settingAt_append howner hstep, ← Schema.entryField_eq rules hown]
    rfl
  · rintro outer key around rfl hsetting
    obtain ⟨owner, howner, hstep⟩ := Schema.at?_append hat
    rw [hpart, Schema.settingAt_append howner hstep, hsetting,
      ← Schema.entryField_eq rules hown]
    rfl

/-- **References are transparent.** Let a text be accepted, and let a reference name what
one of its definitions holds. Wherever the reference stands in a definition, reached
through no other reference, the decoded schema is the one of the definition it names;
and if the walker compiles that position, for any rules, the form shows there what the
form of the named definition shows. -/
theorem reference_reads_as_definition {location text : String} {raw : Json}
    {parsed : Logged Document} (hread : (Format.detect location).read? text = some raw)
    (hparse : Spec.parse location text = .ok parsed)
    {container : List (String × Json)}
    (hcontainer : raw.namedSchemas? parsed.value = some container)
    {name reference : String} {target : Json} (htarget : Keyed.get? container name = some target)
    (hreference : raw.target reference = .ok target)
    {user : String} {source : Json} (hsource : Keyed.get? container user = some source)
    {position : List SchemaStep} {members : List (String × Json)}
    (hplace : Json.openAt? position source = some (.object members))
    (hmembers : Json.referenceOf? members = some reference) (rules : Registry) :
    ∃ schemas definition outer forms own form,
      parsed.value.schemas? = some schemas ∧
      Keyed.get? schemas name = some definition ∧ Keyed.get? schemas user = some outer ∧
      Schema.at? position outer = some definition ∧
      parsed.value.forms rules = .ok forms ∧
      formNamed? forms.value name = some own ∧ formNamed? forms.value user = some form ∧
      (outer.Compiles .definition position →
        ReadsAs rules definition own.fields outer form.fields position) := by
  obtain ⟨out, hout, hdocument⟩ := Spec.parse_ok hread hparse
  have hroot : Json.Expands raw raw out := Json.expands_of_inline hout
  have hrawKeyed : raw.WellKeyed := Format.read?_wellKeyed hread
  have hkeyed : out.WellKeyed := hroot.wellKeyed hrawKeyed hrawKeyed
  obtain ⟨results, schemas, hresults, hresultsKeyed, hnamed, hschemas⟩ :=
    Decode.schemas?_of_namedSchemas? hroot hkeyed hdocument hcontainer htarget
  -- The definition and its user, expanded and then decoded.
  obtain ⟨copy, hcopy, htargetCopy⟩ := hresults.get? htarget
  obtain ⟨sourceCopy, hsourceCopy, hsourceExpands⟩ := hresults.get? hsource
  obtain ⟨definition, hdefinition, hdefinitionOk⟩ := Decode.namedSchemas_get? hnamed hcopy
  obtain ⟨outer, houter, houterOk⟩ := Decode.namedSchemas_get? hnamed hsourceCopy
  -- What replaces the reference is the expansion of the definition.
  obtain ⟨found, hfound, hfoundExpands⟩ := hsourceExpands.openAt? hplace
  obtain ⟨target', htarget', hfoundExpands⟩ := hfoundExpands.of_reference hmembers
  obtain rfl := Except.ok.inj (htarget'.symm.trans hreference)
  obtain rfl := hfoundExpands.unique htargetCopy
  -- A null below `items` would be no schema, but a definition is never null.
  have hnull : found ≠ .null := by
    rintro rfl
    cases hdefinitionOk
  rw [Json.WellKeyed] at hresultsKeyed
  have hsourceKeyed : sourceCopy.WellKeyed := hresultsKeyed.2.get? hsourceCopy
  obtain ⟨inner, hinner, hinnerOk⟩ := Decode.schema_at hsourceKeyed houterOk hfound hnull
  obtain rfl := Except.ok.inj (hinnerOk.symm.trans hdefinitionOk)
  obtain ⟨forms, hforms⟩ : ∃ forms, parsed.value.forms rules = .ok forms := by
    rw [Document.forms, hschemas]
    exact ⟨_, rfl⟩
  obtain ⟨own, hown, hownFields⟩ := formNamed?_of_forms hschemas hforms hdefinition
  obtain ⟨form, hform, hformFields⟩ := formNamed?_of_forms hschemas hforms houter
  exact ⟨schemas, inner, outer, forms, own, form, hschemas, hdefinition, houter, hinner, hforms,
    hown, hform, ReadsAs.of_compiles rules hownFields hformFields hinner⟩

/-- A text where a property of `B` has `A` as its only branch. -/
def nestingText : String :=
  "\x7b\"definitions\":\x7b\"A\":\x7b\"properties\":\x7b\"x\":\x7b\x7d\x7d\x7d," ++
    "\"B\":\x7b\"properties\":\x7b\"p\":" ++
    "\x7b\"allOf\":[\x7b\"$ref\":\"#/definitions/A\"\x7d]\x7d\x7d\x7d\x7d\x7d"

/-- What `A` holds. -/
def nestedValue : Json :=
  .object [("properties", .object [("x", .object [])])]

/-- What `B` holds, given its branch. -/
def nestingValue (branch : Json) : Json :=
  .object [("properties", .object [("p", .object [("allOf", .array [branch])])])]

def nestingRoot (branch : Json) : Json :=
  .object [("definitions", .object [("A", nestedValue), ("B", nestingValue branch)])]

def nestedSchema : Schema :=
  { properties := [("x", {})] }

def nestingSchema : Schema :=
  { properties := [("p", { allOf := [nestedSchema] })] }

def nestingDocument : Document :=
  { definitions := some [("A", nestedSchema), ("B", nestingSchema)] }

set_option maxRecDepth 2000 in
theorem reference_reads_as_definition_nesting :
    Spec.parse "a.json" nestingText =
      .ok { value := nestingDocument, events := [.specParsed "a.json" 2] } ∧
    ∃ forms own form, nestingDocument.forms .empty = .ok forms ∧
      formNamed? forms.value "A" = some own ∧ formNamed? forms.value "B" = some form ∧
      ReadsAs .empty nestedSchema own.fields nestingSchema form.fields
        [.property "p", .branch 0] := by
  let pointing : Json := .object [("$ref", .string "#/definitions/A")]
  have hread : (Format.detect "a.json").read? nestingText = some (nestingRoot pointing) := rfl
  have hnested : Json.Expands (nestingRoot pointing) nestedValue nestedValue :=
    .object rfl (.cons (.object rfl (.cons (.object rfl .nil) .nil)) .nil)
  have hreference : Json.Expands (nestingRoot pointing) pointing nestedValue :=
    .reference rfl rfl hnested
  have hnesting : Json.Expands (nestingRoot pointing) (nestingValue pointing)
      (nestingValue nestedValue) :=
    .object rfl (.cons (.object rfl (.cons (.object rfl (.cons (.array (.cons hreference .nil))
      .nil)) .nil)) .nil)
  have hroot : Json.Expands (nestingRoot pointing) (nestingRoot pointing)
      (nestingRoot nestedValue) :=
    .object rfl (.cons (.object rfl (.cons hnested (.cons hnesting .nil))) .nil)
  have hinline : (nestingRoot pointing).inlineReferences = .ok (nestingRoot nestedValue) :=
    hroot.inline_nil _
  have hdocument : Document.ofJson (nestingRoot nestedValue) = .ok nestingDocument := rfl
  have hparse : Spec.parse "a.json" nestingText =
      .ok { value := nestingDocument, events := [.specParsed "a.json" 2] } := by
    simp only [Spec.parse, hread, Spec.ofValue, hinline, hdocument]
    rfl
  obtain ⟨schemas, definition, outer, forms, own, form, hschemas, hdefinition, houter, -, hforms,
    hown, hform, hreads⟩ := reference_reads_as_definition hread hparse rfl
      (show Keyed.get? _ "A" = _ from rfl) (show Json.target _ "#/definitions/A" = _ from rfl)
      (show Keyed.get? _ "B" = _ from rfl)
      (show Json.openAt? [.property "p", .branch 0] _ = _ from rfl) rfl .empty
  obtain rfl := Option.some.inj hschemas
  obtain rfl := Option.some.inj hdefinition
  obtain rfl := Option.some.inj houter
  exact ⟨hparse, forms, own, form, hforms, hown, hform,
    hreads ⟨rfl, _, rfl, rfl, _, rfl, trivial⟩⟩

end SchemaForms
