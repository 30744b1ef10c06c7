/-
Where in a form the schemas inside a definition come out. The walker takes a schema up
in one of two settings: for its fields, as a definition or a branch, or for one field of
a definition around it, as a property or as the items of an array. A property or item
that is an object is again gone into for its fields.

Each position that the walker compiles has a place in the form: a row of neighbouring
fields, or a single field. `Part.at?` finds that place by counting, from the schema and
the form alone: the fields of a branch follow those of the branches before it, and own
properties follow all branches. The main statement (`part_at`) is that what stands there
is what the schema at the position compiles to by itself. The name of the definition
around it plays no part, for names go into events only (`fields_value_congr`).
-/
import SchemaForms.Form.Compilation
import SchemaForms.Proofs.Schema.Position

set_option autoImplicit false

namespace SchemaForms

/-! ## Settings -/

/-- What the walker takes a schema up for. -/
inductive Setting where
  /-- For its fields: a definition or a branch. -/
  | definition
  /-- For one field of a definition around it: a property or the items of an array. -/
  | entry (name : String) (owner : Schema)

namespace Setting

/-- Is the schema gone into for its fields? -/
def opens (setting : Setting) (schema : Schema) : Bool :=
  match setting with
  | definition => true
  | entry _ _ => schema.isObject

/-- Does the walker go on to the schema that the step leads to? -/
def follows (setting : Setting) (schema : Schema) : SchemaStep → Bool
  | .branch _ => setting.opens schema
  | .property _ => setting.opens schema
  | .items => !setting.opens schema && schema.isArray

/-- The setting of `inner`, one step further in. -/
def next (setting : Setting) (schema inner : Schema) : SchemaStep → Setting
  | .branch _ => definition
  | .property name => entry name schema
  | .items =>
    match setting with
    | entry name _ => entry name (.wrapping name inner)
    | definition => definition

end Setting

/-- The walker compiles the schema at a position: it follows every step. -/
def Schema.Compiles (setting : Setting) (schema : Schema) : List SchemaStep → Prop
  | [] => True
  | step :: rest =>
    setting.follows schema step = true ∧
      ∃ inner, schema.step? step = some inner ∧
        inner.Compiles (setting.next schema inner step) rest

/-- The setting of the schema at a position. -/
def Schema.settingAt (setting : Setting) (schema : Schema) : List SchemaStep → Setting
  | [] => setting
  | step :: rest =>
    match schema.step? step with
    | some inner => inner.settingAt (setting.next schema inner step) rest
    | none => setting

namespace Schema

/-- The last step to a position goes from the schema that holds what is there. -/
theorem at?_append {position : List SchemaStep} {step : SchemaStep} {schema inner : Schema}
    (h : Schema.at? (position ++ [step]) schema = some inner) :
    ∃ owner, Schema.at? position schema = some owner ∧ owner.step? step = some inner := by
  induction position generalizing schema with
  | nil =>
    obtain ⟨found, hfound, hinner⟩ := Option.bind_eq_some_iff.1 h
    obtain rfl := Option.some.inj hinner
    exact ⟨schema, rfl, hfound⟩
  | cons first rest ih =>
    obtain ⟨next, hnext, hrest⟩ := Option.bind_eq_some_iff.1 h
    obtain ⟨owner, howner, hstep⟩ := ih hrest
    exact ⟨owner, by rw [Schema.at?, hnext]; exact howner, hstep⟩

theorem at?_append_of_step? {position : List SchemaStep} {step : SchemaStep}
    {schema owner inner : Schema} (howner : Schema.at? position schema = some owner)
    (hinner : owner.step? step = some inner) :
    Schema.at? (position ++ [step]) schema = some inner := by
  induction position generalizing schema with
  | nil =>
    obtain rfl := Option.some.inj howner
    rw [List.nil_append, Schema.at?, hinner]
    rfl
  | cons first rest ih =>
    obtain ⟨next, hnext, hrest⟩ := Option.bind_eq_some_iff.1 howner
    rw [List.cons_append, Schema.at?, hnext]
    exact ih hrest

theorem settingAt_append {position : List SchemaStep} {step : SchemaStep} {setting : Setting}
    {schema owner inner : Schema} (howner : Schema.at? position schema = some owner)
    (hinner : owner.step? step = some inner) :
    schema.settingAt setting (position ++ [step]) =
      (schema.settingAt setting position).next owner inner step := by
  induction position generalizing setting schema with
  | nil =>
    obtain rfl := Option.some.inj howner
    simp only [List.nil_append, settingAt, hinner]
  | cons first rest ih =>
    obtain ⟨next, hnext, hrest⟩ := Option.bind_eq_some_iff.1 howner
    simp only [List.cons_append, settingAt, hnext]
    exact ih hrest

end Schema

/-! ## Places in a form -/

/-- A part of a form. -/
inductive Part where
  /-- Neighbouring fields. -/
  | block (fields : List Field)
  /-- A single field. -/
  | entry (field : Field)

namespace Schema

mutual

/-- How many fields a definition gets. -/
def width : Schema → Nat
  | ⟨_, properties, _, allOf⟩ => widthOf allOf + properties.length

/-- How many fields branches get together. -/
def widthOf : List Schema → Nat
  | [] => 0
  | branch :: rest => width branch + widthOf rest

end

end Schema

namespace Part

/-- The fields in a part: those of a block, or those of a group. -/
def fields : Part → List Field
  | block fields => fields
  | entry (.group _ children) => children
  | entry _ => []

/-- The part that belongs to the schema one step further in. -/
def step? (schema : Schema) (part : Part) : SchemaStep → Option Part
  | .branch index =>
    (schema.allOf[index]?).map fun branch =>
      block ((part.fields.drop (Schema.widthOf (schema.allOf.take index))).take branch.width)
  | .property name =>
    (part.fields[Schema.widthOf schema.allOf + (Keyed.keys schema.properties).idxOf name]?).map
      entry
  | .items =>
    match part with
    | entry (.repeated _ _ template _) => some (entry template)
    | _ => none

/-- The part that belongs to the schema at a position. -/
def at? : List SchemaStep → Schema → Part → Option Part
  | [], _, part => some part
  | step :: rest, schema, part =>
    match schema.step? step, part.step? schema step with
    | some inner, some part => at? rest inner part
    | _, _ => none

end Part

namespace Schema

variable (rules : Registry)

/-! ## What a schema compiles to -/

/-- The field of a property. -/
def entryField (owner : Schema) (name : String) (property : Schema) : Field :=
  if property.isObject then .group name (property.fields rules name).value
  else (valueField rules owner name property).value

/-- What a schema compiles to in a setting. -/
def part (setting : Setting) (schema : Schema) : Part :=
  match setting with
  | .definition => .block (schema.fields rules "").value
  | .entry name owner => .entry (entryField rules owner name schema)

mutual

/-- **Names go into events only**: the fields of a definition do not depend on its name. -/
theorem fields_value_congr (name other : String) : ∀ schema : Schema,
    (schema.fields rules name).value = (schema.fields rules other).value
  | ⟨keywords, properties, items, allOf⟩ => by
    simp only [fields, Logged.value_bind, Logged.value_pure]
    rw [branchFields_value_congr name other allOf]

theorem branchFields_value_congr (name other : String) : ∀ branches : List Schema,
    (branchFields rules name branches).value = (branchFields rules other branches).value
  | [] => by simp only [branchFields]
  | branch :: rest => by
    simp only [branchFields, Logged.value_bind, Logged.value_pure]
    rw [fields_value_congr name other branch, branchFields_value_congr name other rest]

end

theorem propertyFields_value (owner : Schema) (properties : List (String × Schema)) :
    (propertyFields rules owner properties).value =
      properties.map fun property => entryField rules owner property.1 property.2 := by
  induction properties with
  | nil => rw [propertyFields]; rfl
  | cons property rest ih =>
    obtain ⟨name, schema⟩ := property
    rw [propertyFields, List.map_cons, ← ih, entryField]
    split <;> rfl

/-- The fields of a definition: those of the branches, then one for each property. -/
theorem fields_value (name : String) (schema : Schema) :
    (schema.fields rules name).value =
      (branchFields rules name schema.allOf).value ++
        schema.properties.map fun property => entryField rules schema property.1 property.2 := by
  obtain ⟨keywords, properties, items, allOf⟩ := schema
  simp only [fields, Logged.value_bind, Logged.value_pure, propertyFields_value]

/-! ## How many fields there are -/

mutual

theorem length_fields (name : String) : ∀ schema : Schema,
    (schema.fields rules name).value.length = schema.width
  | ⟨keywords, properties, items, allOf⟩ => by
    rw [fields_value, List.length_append, List.length_map, length_branchFields name allOf, width]

theorem length_branchFields (name : String) : ∀ branches : List Schema,
    (branchFields rules name branches).value.length = widthOf branches
  | [] => by rw [branchFields, widthOf]; rfl
  | branch :: rest => by
    simp only [branchFields, Logged.value_bind, Logged.value_pure, List.length_append]
    rw [length_fields name branch, length_branchFields name rest, widthOf]

end

/-- The fields of a branch stand behind those of the branches before it. -/
theorem drop_take_branchFields (name : String) {branches : List Schema} {index : Nat}
    {branch : Schema} (h : branches[index]? = some branch) (others : List Field) :
    ((((branchFields rules name branches).value ++ others).drop
      (widthOf (branches.take index))).take branch.width) =
        (branch.fields rules name).value := by
  induction branches generalizing index with
  | nil => cases h
  | cons first rest ih =>
    simp only [branchFields, Logged.value_bind, Logged.value_pure, List.append_assoc]
    cases index with
    | zero =>
      obtain rfl := Option.some.inj h
      rw [List.take_zero, widthOf, List.drop_zero, ← length_fields rules name first,
        List.take_left]
    | succ index =>
      -- The first branch is dropped whole, and the rest is the same question again.
      have hdrop : ∀ (fields : List Field) (n : Nat),
          ((first.fields rules name).value ++ fields).drop (first.width + n) = fields.drop n := by
        intro fields n
        rw [← length_fields rules name first, List.drop_length_add_append]
      rw [List.take_succ_cons, widthOf, hdrop]
      exact ih h

theorem getElem?_idxOf_keys {properties : List (String × Schema)} {name : String}
    {property : Schema} (h : Keyed.get? properties name = some property) :
    properties[(Keyed.keys properties).idxOf name]? = some (name, property) := by
  induction properties with
  | nil => cases h
  | cons entry rest ih =>
    obtain ⟨k, first⟩ := entry
    rw [Keyed.get?, List.lookup_cons] at h
    rw [Keyed.keys, List.map_cons, List.idxOf_cons]
    split at h
    · rename_i hk
      obtain rfl := eq_of_beq hk
      obtain rfl := Option.some.inj h
      rw [beq_self_eq_true]
      rfl
    · rename_i hk
      rw [BEq.comm, hk]
      exact ih h

/-! ## Each step leads to its place -/

/-- A schema that is gone into shows its fields in its part. -/
theorem part_fields {setting : Setting} {schema : Schema} (h : setting.opens schema = true) :
    ∃ name, (schema.part rules setting).fields = (schema.fields rules name).value := by
  cases setting with
  | definition => exact ⟨"", rfl⟩
  | entry name owner =>
    refine ⟨name, ?_⟩
    have hobject : schema.isObject = true := h
    rw [part, entryField, if_pos hobject]
    rfl

/-- One step of the walker: the part of the schema it leads to is found by counting. -/
theorem part_step? {setting : Setting} {schema inner : Schema} {step : SchemaStep}
    (hfollows : setting.follows schema step = true) (hinner : schema.step? step = some inner) :
    (schema.part rules setting).step? schema step =
      some (inner.part rules (setting.next schema inner step)) := by
  cases step with
  | branch index =>
    -- Branches come first, so the branches before this one are all there is to count.
    obtain ⟨name, hfields⟩ := part_fields rules hfollows
    rw [step?] at hinner
    rw [Part.step?, hinner, Option.map_some, hfields, fields_value,
      drop_take_branchFields rules name hinner, fields_value_congr rules name ""]
    rfl
  | property name =>
    -- Properties come behind all branches, one field each.
    obtain ⟨outer, hfields⟩ := part_fields rules hfollows
    rw [step?, property?] at hinner
    have hplace : (schema.fields rules outer).value[widthOf schema.allOf +
        (Keyed.keys schema.properties).idxOf name]? =
          some (entryField rules schema name inner) := by
      rw [fields_value, ← length_branchFields rules outer schema.allOf,
        List.getElem?_append_right (Nat.le_add_right _ _), Nat.add_sub_cancel_left,
        List.getElem?_map, getElem?_idxOf_keys hinner]
      rfl
    rw [Part.step?, hfields, hplace]
    rfl
  | items =>
    -- Only an array that is itself an entry has a template.
    cases setting with
    | definition => cases hfollows
    | entry name owner =>
      obtain ⟨keywords, properties, items, allOf⟩ := schema
      simp only [Setting.follows, Setting.opens, Bool.and_eq_true, Bool.not_eq_true'] at hfollows
      simp only [step?] at hinner
      subst hinner
      simp only [part, entryField, hfollows.1, Bool.false_eq_true, if_false, valueField,
        hfollows.2, if_true, Logged.value_bind, Logged.value_pure, Part.step?, Setting.next,
        templateField]
      split <;> rfl

/-- **What stands at a compiled position is what its schema compiles to by itself.** The
induction is on the position, from the outside in. -/
theorem part_at {position : List SchemaStep} {setting : Setting} {schema inner : Schema}
    (hcompiles : schema.Compiles setting position)
    (hinner : Schema.at? position schema = some inner) :
    Part.at? position schema (schema.part rules setting) =
      some (inner.part rules (schema.settingAt setting position)) := by
  induction position generalizing setting schema with
  | nil =>
    obtain rfl := Option.some.inj hinner
    rfl
  | cons step rest ih =>
    obtain ⟨hfollows, next, hnext, hrest⟩ := hcompiles
    rw [at?, hnext] at hinner
    rw [Part.at?, settingAt, hnext, part_step? rules hfollows hnext]
    exact ih hrest hinner

/-- The field of a property, wherever the walker comes to the definition that has it. -/
theorem part_property (name : String) {position : List SchemaStep} {key : String}
    {schema owner property : Schema}
    (hcompiles : schema.Compiles .definition (position ++ [.property key]))
    (howner : Schema.at? position schema = some owner)
    (hproperty : owner.property? key = some property) :
    Part.at? (position ++ [.property key]) schema (.block (schema.fields rules name).value) =
      some (.entry (entryField rules owner key property)) := by
  have hstep : owner.step? (.property key) = some property := hproperty
  have hpart := part_at rules hcompiles (at?_append_of_step? howner hstep)
  rw [settingAt_append howner hstep, part, fields_value_congr rules "" name] at hpart
  exact hpart

/-! ## What the walker comes to -/

/-- Going through a definition, the walker comes to a schema at a position, and takes it up for
one field of another definition. -/
structure TakenUp (schema : Schema) (position : List SchemaStep) (key : String)
    (owner inner : Schema) : Prop where
  compiles : schema.Compiles .definition position
  at?_eq : Schema.at? position schema = some inner
  settingAt_eq : schema.settingAt .definition position = .entry key owner

variable {rules}

/-- What stands in the form for a schema that is taken up is its field. -/
theorem TakenUp.part_eq {schema owner inner : Schema} {position : List SchemaStep} {key : String}
    (h : schema.TakenUp position key owner inner) (name : String) :
    Part.at? position schema (.block (schema.fields rules name).value) =
      some (.entry (entryField rules owner key inner)) := by
  have hpart := part_at rules h.compiles h.at?_eq
  rw [h.settingAt_eq, part, part, fields_value_congr rules "" name] at hpart
  exact hpart

end Schema

end SchemaForms
