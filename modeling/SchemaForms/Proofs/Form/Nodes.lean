/-
A form as a whole tree: its shape, its nodes, and what the walker makes nodes from.

The shape of a form is the form with all validators taken off (`bare`); its nodes are all
fields in it at any depth, groups and templates included, each before the fields inside
it. Validators stand on nodes, so a form is its shape together with one list of
validators for each node (`eq_of_bareAll`).

The walker makes a node in three ways only: a group from a schema it goes into, a control
or repeated field from a property of some definition, and a bare control where an array
does not say what its entries are. What holds of a field in each of these cases holds of
every node at every depth (`OfMade.nodes`). On the way the walk hands on what is known of
the schema it began with, if that goes over to the schemas inside it.
-/
import SchemaForms.Proofs.Form.Place

set_option autoImplicit false

namespace SchemaForms

namespace Field

/-! ## Shape and nodes -/

mutual

/-- The field without validators, its own and those inside it. -/
def bare : Field → Field
  | control name initial _ => control name initial []
  | group name children => group name (bareAll children)
  | repeated name count template _ => repeated name count (bare template) []

def bareAll : List Field → List Field
  | [] => []
  | field :: rest => bare field :: bareAll rest

end

mutual

/-- The field and all fields inside it, each before those inside it. -/
def nodes : Field → List Field
  | control name initial validators => [control name initial validators]
  | group name children => group name children :: nodesOf children
  | repeated name count template validators =>
    repeated name count template validators :: nodes template

def nodesOf : List Field → List Field
  | [] => []
  | field :: rest => nodes field ++ nodesOf rest

end

/-- The validators of all nodes, an empty list for each group. -/
def validatorsOf (fields : List Field) : List (List Validator) :=
  (nodesOf fields).map validators

theorem bareAll_append (as bs : List Field) : bareAll (as ++ bs) = bareAll as ++ bareAll bs := by
  induction as with
  | nil => rfl
  | cons field rest ih => rw [List.cons_append, bareAll, bareAll, ih, List.cons_append]

theorem nodesOf_append (as bs : List Field) : nodesOf (as ++ bs) = nodesOf as ++ nodesOf bs := by
  induction as with
  | nil => rfl
  | cons field rest ih => rw [List.cons_append, nodesOf, nodesOf, ih, List.append_assoc]

theorem nodesOf_singleton (field : Field) : nodesOf [field] = nodes field := by
  rw [nodesOf, nodesOf, List.append_nil]

theorem validatorsOf_append (as bs : List Field) :
    validatorsOf (as ++ bs) = validatorsOf as ++ validatorsOf bs := by
  rw [validatorsOf, nodesOf_append, List.map_append]
  rfl

/-! ## What the shape decides -/

mutual

theorem controlCount_bare : ∀ field : Field, (bare field).controlCount = field.controlCount
  | control _ _ _ => by rw [bare, controlCount, controlCount]
  | group _ children => by rw [bare, controlCount, controlCount, controlCountOf_bareAll children]
  | repeated _ _ template _ => by
    rw [bare, controlCount, controlCount, controlCount_bare template]

/-- The number of controls does not depend on validators. -/
theorem controlCountOf_bareAll : ∀ fields : List Field,
    controlCountOf (bareAll fields) = controlCountOf fields
  | [] => by rw [bareAll]
  | field :: rest => by
    rw [bareAll, controlCountOf, controlCountOf, controlCount_bare field,
      controlCountOf_bareAll rest]

end

mutual

theorem length_nodes_bare : ∀ field : Field, (nodes (bare field)).length = (nodes field).length
  | control _ _ _ => by rw [bare, nodes, nodes]; rfl
  | group _ children => by
    rw [bare, nodes, nodes, List.length_cons, List.length_cons, length_nodesOf_bareAll children]
  | repeated _ _ template _ => by
    rw [bare, nodes, nodes, List.length_cons, List.length_cons, length_nodes_bare template]

theorem length_nodesOf_bareAll : ∀ fields : List Field,
    (nodesOf (bareAll fields)).length = (nodesOf fields).length
  | [] => by rw [bareAll]
  | field :: rest => by
    rw [bareAll, nodesOf, nodesOf, List.length_append, List.length_append,
      length_nodes_bare field, length_nodesOf_bareAll rest]

end

/-- Fields of one shape have as many nodes. -/
theorem length_nodes_of_bare {a b : Field} (h : bare a = bare b) :
    (nodes a).length = (nodes b).length := by
  rw [← length_nodes_bare a, h, length_nodes_bare b]

mutual

theorem eq_of_bare : ∀ {a b : Field}, bare a = bare b →
    (nodes a).map validators = (nodes b).map validators → a = b
  | control name initial as, b, hbare, hnodes => by
    cases b with
    | control name' initial' bs =>
      simp only [bare, control.injEq, and_true] at hbare
      obtain ⟨rfl, rfl⟩ := hbare
      simp only [nodes, List.map_cons, List.map_nil, validators, List.cons.injEq,
        and_true] at hnodes
      rw [hnodes]
    | group | repeated => simp only [bare, reduceCtorEq] at hbare
  | group name as, b, hbare, hnodes => by
    cases b with
    | group name' bs =>
      simp only [bare, group.injEq] at hbare
      obtain ⟨rfl, hbare⟩ := hbare
      simp only [nodes, List.map_cons, List.cons.injEq] at hnodes
      rw [eq_of_bareAll hbare hnodes.2]
    | control | repeated => simp only [bare, reduceCtorEq] at hbare
  | repeated name count template as, b, hbare, hnodes => by
    cases b with
    | repeated name' count' template' bs =>
      simp only [bare, repeated.injEq, and_true] at hbare
      obtain ⟨rfl, rfl, hbare⟩ := hbare
      simp only [nodes, List.map_cons, validators, List.cons.injEq] at hnodes
      rw [eq_of_bare hbare hnodes.2, hnodes.1]
    | control | group => simp only [bare, reduceCtorEq] at hbare

/-- **A form is its shape and the validators of its nodes.** -/
theorem eq_of_bareAll : ∀ {as bs : List Field}, bareAll as = bareAll bs →
    validatorsOf as = validatorsOf bs → as = bs
  | [], bs, hbare, _ => by
    cases bs with
    | nil => rfl
    | cons => simp only [bareAll, reduceCtorEq] at hbare
  | a :: as, bs, hbare, hnodes => by
    cases bs with
    | nil => simp only [bareAll, reduceCtorEq] at hbare
    | cons b bs =>
      simp only [bareAll, List.cons.injEq] at hbare
      simp only [validatorsOf, nodesOf, List.map_append] at hnodes
      -- The first fields have as many nodes, so the lists fall apart in the same place.
      have hlength : ((nodes a).map validators).length = ((nodes b).map validators).length := by
        rw [List.length_map, List.length_map, length_nodes_of_bare hbare.1]
      obtain ⟨hfirst, hrest⟩ := List.append_inj hnodes hlength
      rw [eq_of_bare hbare.1 hfirst, eq_of_bareAll hbare.2 hrest]

end

end Field

namespace Schema

variable (rules : Registry)

/-! ## What the walker makes nodes from -/

theorem valueField_of_isArray (owner : Schema) (name : String) {property : Schema}
    (h : property.isArray = true) :
    (valueField rules owner name property).value =
      .repeated name (repeatCount name property.minItems).value
        (templateField rules name property.items).value (rules.validators name owner) := by
  obtain ⟨keywords, properties, items, allOf⟩ := property
  simp only [valueField, h, if_true, Logged.value_bind, Logged.value_pure]

theorem valueField_of_not_isArray (owner : Schema) (name : String) {property : Schema}
    (h : property.isArray = false) :
    (valueField rules owner name property).value =
      .control name property.initial (rules.validators name owner) := by
  obtain ⟨keywords, properties, items, allOf⟩ := property
  simp only [valueField, h, Bool.false_eq_true, if_false, Logged.value_pure]

theorem validators_valueField (owner : Schema) (name : String) (property : Schema) :
    (valueField rules owner name property).value.validators = rules.validators name owner := by
  cases h : property.isArray with
  | true => rw [valueField_of_isArray rules owner name h, Field.validators]
  | false => rw [valueField_of_not_isArray rules owner name h, Field.validators]

theorem name_valueField (owner : Schema) (name : String) (property : Schema) :
    (valueField rules owner name property).value.name = name := by
  cases h : property.isArray with
  | true => rw [valueField_of_isArray rules owner name h, Field.name]
  | false => rw [valueField_of_not_isArray rules owner name h, Field.name]

/-- An array that is taken up is a repeated field. -/
theorem TakenUp.part_eq_repeated {schema owner array : Schema} {position : List SchemaStep}
    {key : String} (h : schema.TakenUp position key owner array) (hobject : array.isObject = false)
    (harray : array.isArray = true) (name : String) :
    Part.at? position schema (.block (schema.fields rules name).value) =
      some (.entry (.repeated key (repeatCount key array.minItems).value
        (templateField rules key array.items).value (rules.validators key owner))) := by
  rw [h.part_eq name, entryField, hobject, if_neg Bool.false_ne_true,
    valueField_of_isArray rules owner key harray]

theorem templateField_none (name : String) :
    (templateField rules name none).value = .control name none [] := by
  simp only [templateField, Logged.value_bind, Logged.value_pure]

theorem templateField_some (name : String) (item : Schema) :
    (templateField rules name (some item)).value =
      entryField rules (wrapping name item) name item := by
  rw [templateField, entryField]
  split <;> rfl

/-- The fields that the walker makes at any depth. -/
inductive Made : Field → Prop where
  /-- A schema that is gone into. -/
  | group (name : String) (schema : Schema) : Made (.group name (schema.fields rules name).value)
  /-- A property of some definition, or the items of an array as the only property of one. -/
  | value (owner : Schema) (name : String) (property : Schema) :
    Made (valueField rules owner name property).value
  /-- The entries of an array that does not say what they are. -/
  | missing (name : String) : Made (.control name none [])

/-! ## Nodes by what they are made from -/

/-- What is known of a schema is known of the schemas that the walker goes on to, and of the
definitions that it makes of them. -/
structure Inherited (known : Schema → Prop) : Prop where
  branch : ∀ {schema branch : Schema}, known schema → branch ∈ schema.allOf → known branch
  property : ∀ {schema : Schema} {name : String} {property : Schema}, known schema →
    (name, property) ∈ schema.properties → known property
  items : ∀ {schema item : Schema}, known schema → schema.items = some item → known item
  wrapping : ∀ {schema : Schema} (name : String), known schema → known (wrapping name schema)

/-- What holds of each field by how the walker makes it. Of a property it may take for granted
that its definition has it and is known. -/
structure OfMade (known : Schema → Prop) (holds : Field → Prop) : Prop where
  group : ∀ name schema, holds (.group name (fields rules name schema).value)
  value : ∀ {owner : Schema} {name : String} {property : Schema}, known owner →
    (name, property) ∈ owner.properties → holds (valueField rules owner name property).value
  missing : ∀ name, holds (.control name none [])

section

variable {rules} {known : Schema → Prop} {holds : Field → Prop}

/-- The nodes of what is made for a property come from its fields or from its value. -/
theorem OfMade.entry (hmade : OfMade rules known holds) {owner : Schema} {name : String}
    {property : Schema}
    (hfields : ∀ node ∈ Field.nodesOf (property.fields rules name).value, holds node)
    (hvalue : ∀ node ∈ Field.nodes (valueField rules owner name property).value, holds node) :
    ∀ node ∈ Field.nodes (entryField rules owner name property), holds node := by
  intro node hnode
  rw [entryField] at hnode
  split at hnode
  · rw [Field.nodes, List.mem_cons] at hnode
    rcases hnode with rfl | hnode
    · exact hmade.group name property
    · exact hfields node hnode
  · exact hvalue node hnode

mutual

/-- **What holds of fields as they are made holds of every node of a form.** The induction is
on the schema, through branches, properties and items as the walker goes. -/
theorem OfMade.nodes (hmade : OfMade rules known holds) (hknown : Inherited known)
    (name : String) : ∀ {schema : Schema}, known schema →
    ∀ node ∈ Field.nodesOf (schema.fields rules name).value, holds node
  | ⟨keywords, properties, items, allOf⟩, h => by
    intro node hnode
    simp only [fields, Logged.value_bind, Logged.value_pure, Field.nodesOf_append,
      List.mem_append] at hnode
    rcases hnode with hnode | hnode
    · exact hmade.branchNodes hknown name (fun branch hbranch => hknown.branch h hbranch) node hnode
    · exact hmade.propertyNodes hknown h (fun entry hentry => hentry) node hnode

theorem OfMade.branchNodes (hmade : OfMade rules known holds) (hknown : Inherited known)
    (name : String) : ∀ {branches : List Schema},
    (∀ branch ∈ branches, known branch) →
      ∀ node ∈ Field.nodesOf (branchFields rules name branches).value, holds node
  | [], _ => by
    intro node hnode
    simp only [branchFields, Logged.value_pure, Field.nodesOf, List.not_mem_nil] at hnode
  | branch :: rest, h => by
    intro node hnode
    simp only [branchFields, Logged.value_bind, Logged.value_pure, Field.nodesOf_append,
      List.mem_append] at hnode
    obtain ⟨hbranch, hrest⟩ := List.forall_mem_cons.1 h
    rcases hnode with hnode | hnode
    · exact hmade.nodes hknown name hbranch node hnode
    · exact hmade.branchNodes hknown name hrest node hnode

theorem OfMade.propertyNodes (hmade : OfMade rules known holds) (hknown : Inherited known)
    {owner : Schema} (howner : known owner) :
    ∀ {properties : List (String × Schema)},
      (∀ entry ∈ properties, entry ∈ owner.properties) →
        ∀ node ∈ Field.nodesOf (propertyFields rules owner properties).value, holds node
  | [], _ => by
    intro node hnode
    simp only [propertyFields, Logged.value_pure, Field.nodesOf, List.not_mem_nil] at hnode
  | (name, property) :: rest, h => by
    intro node hnode
    rw [propertyFields_value, List.map_cons, ← propertyFields_value, Field.nodesOf,
      List.mem_append] at hnode
    obtain ⟨hproperty, hrest⟩ := List.forall_mem_cons.1 h
    rcases hnode with hnode | hnode
    · exact hmade.entry (hmade.nodes hknown name (hknown.property howner hproperty))
        (hmade.valueNodes hknown howner hproperty) node hnode
    · exact hmade.propertyNodes hknown howner hrest node hnode

theorem OfMade.valueNodes (hmade : OfMade rules known holds) (hknown : Inherited known)
    {owner : Schema} {name : String} (howner : known owner) :
    ∀ {property : Schema}, (name, property) ∈ owner.properties →
      ∀ node ∈ Field.nodes (valueField rules owner name property).value, holds node
  | ⟨keywords, properties, items, allOf⟩, hproperty => by
    intro node hnode
    have hself := hmade.value howner hproperty
    cases harray : isArray ⟨keywords, properties, items, allOf⟩ with
    | true =>
      rw [valueField_of_isArray rules owner name harray] at hnode hself
      rw [Field.nodes, List.mem_cons] at hnode
      rcases hnode with rfl | hnode
      · exact hself
      · have hitems : ∀ item ∈ items, known item :=
          fun item hitem => hknown.items (hknown.property howner hproperty) hitem
        exact hmade.templateNodes hknown name hitems node hnode
    | false =>
      rw [valueField_of_not_isArray rules owner name harray] at hnode hself
      rw [Field.nodes, List.mem_singleton] at hnode
      subst hnode
      exact hself

theorem OfMade.templateNodes (hmade : OfMade rules known holds) (hknown : Inherited known)
    (name : String) : ∀ {items : Option Schema},
    (∀ item ∈ items, known item) →
      ∀ node ∈ Field.nodes (templateField rules name items).value, holds node
  | none, _ => by
    intro node hnode
    rw [templateField_none, Field.nodes, List.mem_singleton] at hnode
    subst hnode
    exact hmade.missing name
  | some item, h => by
    intro node hnode
    rw [templateField_some] at hnode
    have hitem : known item := h item rfl
    -- The items are the only property of a definition of their own.
    have hproperty : (name, item) ∈ (wrapping name item).properties := List.mem_singleton.2 rfl
    exact hmade.entry (hmade.nodes hknown name hitem)
      (hmade.valueNodes hknown (hknown.wrapping name hitem) hproperty) node hnode

end

end

/-- **Every node of a form is made in one of three ways.** -/
theorem made_of_mem_nodes {node : Field} (name : String) {schema : Schema}
    (h : node ∈ Field.nodesOf (schema.fields rules name).value) : Made rules node := by
  have hknown : Inherited fun _ => True :=
    ⟨fun _ _ => trivial, fun _ _ => trivial, fun _ _ => trivial, fun _ _ => trivial⟩
  have hmade : OfMade rules (fun _ => True) (Made rules) :=
    ⟨.group, fun _ _ => .value _ _ _, .missing⟩
  exact hmade.nodes hknown name trivial node h

end Schema

end SchemaForms
