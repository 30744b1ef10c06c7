/-
One form for each definition, in the order of the document. The named schemas that forms
are made from are one collection, the container (`Document.Container`): the definitions if
they hold a schema, and the schemas of the components if not. When neither holds one there
are no forms and no names, and otherwise the forms, their constants and their files are lists
that run along the container (`forms_in_document_order`).

The order of the container is that of an object in the source. Replacing references may have
led away from where the container is looked for, so the object is the one that is found by
following references (`Resolves`), before the look for a field and after it.
-/
import SchemaForms.Proofs.Naming.Constants
import SchemaForms.Proofs.Reference.Leftover
import SchemaForms.Proofs.Spec.Names

set_option autoImplicit false

namespace SchemaForms

/-! ## The container -/

/-- The collection is there and holds a schema. -/
def HoldsSchema (schemas : Option (Keyed Schema)) : Prop :=
  ∃ entries, schemas = some entries ∧ entries ≠ []

/-- The named schemas that forms are made from. -/
inductive Document.Container (document : Document) : Keyed Schema → Prop where
  | definitions {schemas : Keyed Schema} (h : document.definitions = some schemas)
      (hne : schemas ≠ []) : Container document schemas
  | components {schemas : Keyed Schema} (hnone : ¬HoldsSchema document.definitions)
      (h : document.components.bind Components.schemas = some schemas) (hne : schemas ≠ []) :
      Container document schemas

namespace Document

variable {document : Document}

theorem nonempty?_eq_some_iff {schemas : Option (Keyed Schema)} {entries : Keyed Schema} :
    nonempty? schemas = some entries ↔ schemas = some entries ∧ entries ≠ [] := by
  simp only [nonempty?, Option.filter_eq_some_iff, Bool.not_eq_true', List.isEmpty_eq_false_iff,
    ne_eq]

theorem nonempty?_eq_none_iff {schemas : Option (Keyed Schema)} :
    nonempty? schemas = none ↔ ¬HoldsSchema schemas := by
  constructor
  · intro hnone hholds
    obtain ⟨entries, hentries⟩ := hholds
    rw [nonempty?_eq_some_iff.2 hentries] at hnone
    cases hnone
  · intro hnot
    rw [Option.eq_none_iff_forall_ne_some]
    intro entries hentries
    exact hnot ⟨entries, nonempty?_eq_some_iff.1 hentries⟩

theorem schemas?_eq_some_iff {container : Keyed Schema} :
    document.schemas? = some container ↔ document.Container container := by
  rw [schemas?]
  constructor
  · intro h
    split at h
    · rename_i found hfound
      obtain rfl := Option.some.inj h
      obtain ⟨hdefinitions, hne⟩ := nonempty?_eq_some_iff.1 hfound
      exact .definitions hdefinitions hne
    · rename_i hnone
      obtain ⟨hcomponents, hne⟩ := nonempty?_eq_some_iff.1 h
      exact .components (nonempty?_eq_none_iff.1 hnone) hcomponents hne
  · intro h
    cases h with
    | definitions h hne => rw [nonempty?_eq_some_iff.2 ⟨h, hne⟩]
    | components hnone h hne =>
      rw [nonempty?_eq_none_iff.2 hnone]
      exact nonempty?_eq_some_iff.2 ⟨h, hne⟩

theorem schemas?_eq_none_iff : document.schemas? = none ↔
    ¬HoldsSchema document.definitions ∧
      ¬HoldsSchema (document.components.bind Components.schemas) := by
  rw [schemas?, ← nonempty?_eq_none_iff, ← nonempty?_eq_none_iff]
  split
  · rename_i hfound
    simp only [hfound, reduceCtorEq, false_and]
  · rename_i hnone
    simp only [hnone, true_and]

/-! ## Forms and files along the container -/

theorem forms_of_schemas? (rules : Registry) {container : Keyed Schema}
    (h : document.schemas? = some container) :
    ∃ forms, document.forms rules = .ok forms ∧
      forms.value =
        container.map fun (name, schema) => (Form.ofDefinition rules name schema).value := by
  rw [forms, h]
  exact ⟨_, rfl, value_ofDefinitions rules container⟩

end Document

/-- The forms of a container: one for each of its schemas, in its order, with the name of the
definition and the constant for that name. -/
structure OneFormEach (rules : Registry) (container : Keyed Schema) (forms : List Form) : Prop where
  compiled : forms = container.map fun (name, schema) => (Form.ofDefinition rules name schema).value
  definitions : forms.map Form.definition = container.keys
  identifiers : forms.map Form.identifier = container.keys.map Naming.formIdentifier

/-- The files of forms with these definitions, under either layout: a file for each, named for
the definition, or one file with one form after the other. -/
structure FilesInOrder (names : List String) (forms : List Form) : Prop where
  own : ∀ renderer baseName,
    ((Layout.perDefinition baseName).files renderer forms).map SourceFile.name =
        names.map (· ++ baseName) ∧
      ((Layout.perDefinition baseName).files renderer forms).map SourceFile.content =
        forms.map fun form => renderer.header ++ ("\n" ++ renderer.form form)
  single : ∀ renderer fileName, (Layout.single fileName).files renderer forms =
    [{ name := fileName
       content := renderer.header ++
        String.join (forms.map fun form => "\n" ++ renderer.form form) }]

theorem filesInOrder {names : List String} {forms : List Form}
    (h : forms.map Form.definition = names) : FilesInOrder names forms where
  own renderer baseName := by
    subst h
    refine ⟨?_, ?_⟩
    · rw [Layout.files, List.map_map, List.map_map]
      rfl
    · rw [Layout.files, List.map_map]
      refine List.map_congr_left fun form _ => ?_
      simp only [Function.comp_apply, Renderer.file, Renderer.body, List.map_cons, List.map_nil,
        String.join, List.foldl_cons, List.foldl_nil, String.empty_append]
  single _ _ := rfl

/-! ## The container in the source -/

namespace Json

variable {root : Json}

/-- A value stands for another: itself when it is no reference, and else what the value stands
for that it names. -/
inductive Resolves (root : Json) : Json → Json → Prop where
  | here {value : Json} (plain : value.isReference = false) : Resolves root value value
  | onward {members : List (String × Json)} {reference : String} {value final : Json}
      (href : referenceOf? members = some reference) (htarget : root.target reference = .ok value)
      (h : Resolves root value final) : Resolves root (.object members) final

/-- What the field of a record stands for, where the record stands for what has the field. -/
inductive FieldResolves (root value : Json) (keys : List String) (key : String) :
    Json → Prop where
  | intro {record slot final : Json} (hrecord : Resolves root value record)
      (hslot : record.field? keys key = some slot) (hfinal : Resolves root slot final) :
      FieldResolves root value keys key final

/-- **What a value stands for has its expansion.** -/
theorem Expands.resolves : ∀ {value result : Json}, Expands root value result →
    ∃ final, Resolves root value final ∧ Source root final result
  | value, _, .scalar hscalar => by
    have hplain : value.isReference = false := by
      cases value with
      | object => cases hscalar
      | _ => rfl
    exact ⟨value, .here hplain, hplain, .scalar hscalar⟩
  | .array items, _, .array h => ⟨.array items, .here rfl, rfl, .array h⟩
  | .object members, _, .object plain h => by
    have hplain : (Json.object members).isReference = false := by
      rw [isReference, plain]
      rfl
    exact ⟨.object members, .here hplain, hplain, .object plain h⟩
  | _, _, .reference href htarget h => by
    obtain ⟨final, hresolves, hsource⟩ := h.resolves
    exact ⟨final, .onward href htarget hresolves, hsource⟩

/-- An item of the expansion is the expansion of the item in its place. -/
theorem ExpandsItems.of_getElem? {items results : List Json} (h : ExpandsItems root items results)
    {index : Nat} {result : Json} (hresult : results[index]? = some result) :
    ∃ item, items[index]? = some item ∧ Expands root item result := by
  have hlt : index < items.length := by
    rw [← h.length_eq]
    exact (List.getElem?_eq_some_iff.1 hresult).1
  have hitem : items[index]? = some items[index] := List.getElem?_eq_getElem hlt
  obtain ⟨result', hresult', hexpands⟩ := h.getElem? hitem
  obtain rfl := Option.some.inj (hresult.symm.trans hresult')
  exact ⟨_, hitem, hexpands⟩

theorem Source.field? {value result slot : Json} (h : Source root value result)
    {keys : List String} {key : String} (hslot : result.field? keys key = some slot) :
    ∃ below, value.field? keys key = some below ∧ Expands root below slot := by
  obtain ⟨hplain, hexpands⟩ := h
  cases value with
  | object members =>
    obtain ⟨results, rfl, hmembers⟩ :=
      hexpands.of_object (referenceOf?_of_not_isReference hplain)
    exact hmembers.of_get? hslot
  | array items =>
    obtain ⟨results, rfl, hitems⟩ := hexpands.of_array
    exact hitems.of_getElem? hslot
  | null => rw [hexpands.eq_of_isScalar rfl] at hslot; cases hslot
  | bool => rw [hexpands.eq_of_isScalar rfl] at hslot; cases hslot
  | number => rw [hexpands.eq_of_isScalar rfl] at hslot; cases hslot
  | string => rw [hexpands.eq_of_isScalar rfl] at hslot; cases hslot

/-- A field of a record that is no reference has its expansion among the fields of that of
the record. -/
theorem Source.expands_field? {root value result below : Json} (h : Source root value result)
    {keys : List String} {key : String} (hbelow : value.field? keys key = some below) :
    ∃ slot, result.field? keys key = some slot ∧ Expands root below slot := by
  have hopen : value.openField? keys key = some below := by
    rw [openField?, enter?, h.plain, if_neg Bool.false_ne_true]
    exact hbelow
  exact h.expands.field? hopen

/-- The field of an expansion is the expansion of what the field stands for. -/
theorem Expands.fieldResolves {value result slot : Json} (h : Expands root value result)
    {keys : List String} {key : String} (hslot : result.field? keys key = some slot) :
    ∃ final, FieldResolves root value keys key final ∧ Source root final slot := by
  obtain ⟨record, hrecord, hsource⟩ := h.resolves
  obtain ⟨below, hbelow, hexpands⟩ := hsource.field? hslot
  obtain ⟨final, hfinal, hsource⟩ := hexpands.resolves
  exact ⟨final, .intro hrecord hbelow hfinal, hsource⟩

end Json

open Decode

/-- The members of the object in the source that the container of a document is made from:
where the definitions are looked for, or the schemas of the components. -/
inductive Document.SourceMembers (document : Document) (root : Json) :
    List (String × Json) → Prop where
  | definitions {members : List (String × Json)} (h : HoldsSchema document.definitions)
      (hfield : root.FieldResolves root documentRecord.keys "definitions" (.object members)) :
      SourceMembers document root members
  | components {members : List (String × Json)} {components : Json}
      (hnone : ¬HoldsSchema document.definitions)
      (houter : root.FieldResolves root documentRecord.keys "components" components)
      (hinner : root.FieldResolves components componentsRecord.keys "schemas" (.object members)) :
      SourceMembers document root members

/-- **The container has the order of an object in the source**, whose members have been
expanded and decoded one by one. -/
theorem Document.Container.sourceMembers {document : Document} {root out : Json}
    {container : Keyed Schema} (h : document.Container container) (hout : root.Expands root out)
    (hkeyed : out.WellKeyed) (hdocument : Document.ofJson out = .ok document) :
    ∃ members results, document.SourceMembers root members ∧
      root.ExpandsMembers members results ∧ namedSchemas results = .ok container ∧
      container.keys = Keyed.keys members := by
  -- Neither expanding nor decoding drops, adds or moves a member.
  have hkeys : ∀ {members results : List (String × Json)}, root.ExpandsMembers members results →
      namedSchemas results = .ok container → container.keys = Keyed.keys members := by
    intro members results hmembers hnamed
    rw [keys_namedSchemas hnamed, hmembers.keys_eq]
  cases h with
  | definitions h hne =>
    obtain ⟨results, hfield, hnamed⟩ := definitions_eq_some hkeyed hdocument h
    obtain ⟨final, hfinal, hsource⟩ := hout.fieldResolves hfield
    obtain ⟨members, rfl, -, hmembers⟩ := hsource.of_object
    exact ⟨members, results, .definitions ⟨container, h, hne⟩ hfinal, hmembers, hnamed,
      hkeys hmembers hnamed⟩
  | components hnone h hne =>
    obtain ⟨parts, results, houter, hinner, hnamed⟩ := components_eq_some hkeyed hdocument h
    obtain ⟨components, hcomponents, hsource⟩ := hout.fieldResolves houter
    obtain ⟨final, hfinal, hsource⟩ := hsource.expands.fieldResolves hinner
    obtain ⟨members, rfl, -, hmembers⟩ := hsource.of_object
    exact ⟨members, results, .components hnone hcomponents hfinal, hmembers, hnamed,
      hkeys hmembers hnamed⟩

/-! ## The statement -/

/-- **One form for each definition, in the order of the document.** Making forms fails, with
no schemas found, exactly when neither the definitions nor the components hold a schema, and
asking for the names of the definitions fails in the same cases. Otherwise there is a form for
each schema of the container, in its order, and so there is a file under the layout that gives
each definition its own; the other layout has the forms in that order in one file. If the
document was read from a text, the order is that of the members of an object in the text, and
no definition occurs twice. -/
theorem forms_in_document_order (rules : Registry) (document : Document) :
    (document.forms rules = .error .noSchemas ↔ ¬HoldsSchema document.definitions ∧
      ¬HoldsSchema (document.components.bind Components.schemas)) ∧
    (∀ e, document.forms rules = .error e ↔ document.definitionNames = .error e) ∧
    (∀ e, document.forms rules = .error e → e = .noSchemas) ∧
    (∀ forms, document.forms rules = .ok forms →
      ∃ container, document.Container container ∧
        document.definitionNames = .ok container.keys ∧
        OneFormEach rules container forms.value ∧ FilesInOrder container.keys forms.value ∧
        ∀ location text events, Spec.parse location text = .ok { value := document, events } →
          container.Distinct ∧
          ∃ raw out members results, (Format.detect location).read? text = some raw ∧
            raw.inlineReferences = .ok out ∧ document.SourceMembers raw members ∧
            raw.ExpandsMembers members results ∧ namedSchemas results = .ok container ∧
            container.keys = Keyed.keys members) := by
  cases hschemas : document.schemas? with
  | none =>
    have hforms : document.forms rules = .error .noSchemas := by rw [Document.forms, hschemas]
    have hnames : document.definitionNames = .error .noSchemas := by
      rw [Document.definitionNames, hschemas]
    rw [hforms, hnames]
    refine ⟨iff_of_true rfl (Document.schemas?_eq_none_iff.1 hschemas), ?_, ?_, ?_⟩
    · intro e
      rw [Except.error.injEq, Except.error.injEq]
    · intro e he
      exact (Except.error.inj he).symm
    · intro forms hok
      cases hok
  | some container =>
    obtain ⟨forms, hforms, hvalue⟩ := Document.forms_of_schemas? rules hschemas
    have hnames : document.definitionNames = .ok container.keys := by
      rw [Document.definitionNames, hschemas]
    have hcontainer : document.Container container := Document.schemas?_eq_some_iff.1 hschemas
    obtain ⟨hdefinitions, hidentifiers⟩ := forms_eq_ok hforms
    obtain hkeys := Except.ok.inj (hnames.symm.trans hdefinitions)
    rw [hforms, hnames, ← Document.schemas?_eq_none_iff, hschemas]
    refine ⟨by simp only [reduceCtorEq], ?_, ?_, ?_⟩
    · intro e
      simp only [reduceCtorEq]
    · intro e herror
      cases herror
    · intro forms' hok
      obtain rfl := Except.ok.inj hok
      refine ⟨container, hcontainer, rfl, ⟨hvalue, hkeys.symm, ?_⟩, filesInOrder hkeys.symm, ?_⟩
      · rw [hidentifiers, ← hkeys]
      · intro location text events hparse
        obtain ⟨raw, out, hread, hout, hdocument, hkeyed⟩ := Spec.parse_eq_ok hparse
        obtain ⟨members, results, hmembers, hexpands, hnamed, hkeys'⟩ :=
          hcontainer.sourceMembers (Json.expands_of_inline hout) hkeyed hdocument
        exact ⟨Spec.definitionNames_nodup hparse hnames, raw, out, members, results, hread, hout,
          hmembers, hexpands, hnamed, hkeys'⟩

/-! The definitions are there but empty, and the schemas of the components are a reference. -/

def referredText : String :=
  "\x7b\"definitions\":\x7b\x7d," ++
    "\"components\":\x7b\"schemas\":\x7b\"$ref\":\"#/shared\"\x7d\x7d," ++
    "\"shared\":\x7b\"b\":\x7b\x7d,\"a\":\x7b\x7d\x7d\x7d"

def referredMembers : List (String × Json) :=
  [("b", .object []), ("a", .object [])]

def referredRaw : Json :=
  .object [("definitions", .object []),
    ("components", .object [("schemas", .object [("$ref", .string "#/shared")])]),
    ("shared", .object referredMembers)]

def referredOut : Json :=
  .object [("definitions", .object []),
    ("components", .object [("schemas", .object referredMembers)]),
    ("shared", .object referredMembers)]

def referredDocument : Document :=
  { definitions := some [], components := some { schemas := some [("b", {}), ("a", {})] } }

theorem read_referred : (Format.detect "a.json").read? referredText = some referredRaw := by
  rfl

theorem parse_referred : Spec.parse "a.json" referredText =
    .ok { value := referredDocument, events := [.specParsed "a.json" 2] } := by
  have hshared : Json.Expands referredRaw (.object referredMembers) (.object referredMembers) :=
    .object rfl (.cons (.object rfl .nil) (.cons (.object rfl .nil) .nil))
  have hschemas : Json.Expands referredRaw (.object [("$ref", .string "#/shared")])
      (.object referredMembers) := .reference rfl rfl hshared
  have hroot : Json.Expands referredRaw referredRaw referredOut :=
    .object rfl (.cons (.object rfl .nil) (.cons (.object rfl (.cons hschemas .nil))
      (.cons hshared .nil)))
  have hinline : referredRaw.inlineReferences = .ok referredOut := hroot.inline_nil _
  have hdocument : Document.ofJson referredOut = .ok referredDocument := rfl
  rw [Spec.parse, read_referred]
  simp only [Spec.ofValue, hinline, hdocument]
  rfl

theorem forms_in_document_order_referred : ∃ (forms : Logged (List Form))
    (container : Keyed Schema) (members : List (String × Json)),
    referredDocument.forms .standard = .ok forms ∧
      Spec.parse "a.json" referredText =
        .ok { value := referredDocument, events := [.specParsed "a.json" 2] } ∧
      forms.value.map Form.definition = ["b", "a"] ∧
      FilesInOrder ["b", "a"] forms.value ∧
      referredDocument.SourceMembers referredRaw members ∧
      container = [("b", {}), ("a", {})] ∧ Keyed.keys members = Keyed.keys container := by
  obtain ⟨forms, hforms⟩ : ∃ forms, referredDocument.forms .standard = .ok forms := ⟨_, rfl⟩
  obtain ⟨-, -, -, hall⟩ := forms_in_document_order .standard referredDocument
  obtain ⟨container, hcontainer, -, heach, hfiles, hsource⟩ := hall forms hforms
  obtain ⟨-, raw, out, members, results, hread, -, hmembers, -, -, hkeys⟩ :=
    hsource "a.json" referredText _ parse_referred
  obtain rfl : referredRaw = raw := Option.some.inj (read_referred.symm.trans hread)
  obtain rfl : [("b", {}), ("a", {})] = container :=
    Option.some.inj (Document.schemas?_eq_some_iff.2 hcontainer)
  exact ⟨forms, _, members, hforms, parse_referred, heach.definitions, hfiles, hmembers, rfl,
    hkeys.symm⟩

end SchemaForms
