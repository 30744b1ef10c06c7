/-
What the walker makes of a schema inside another it makes of that schema by itself.

The walker goes down a schema by recursion on it, and so Lean sees that it ends. Written out as
three functions that call one another, for a definition, for a field of a definition and for the
items of an array, it is not so plain: the items of an array are wrapped into a definition made
for them, and that is larger than the items were. So the calls of the three are left open
(`compile`), and the rank that goes down looks a definition through: the rank of a field is that
of the property it is looked up to be, and a wrapping weighs no more than what it holds. The
walker of the library answers each call as the three functions would (`run?_compile`), hence it
is what they come to.

Then there is nothing left to say about the depth at which a schema stands. A nested object is a
group of the fields of its own schema, and the template of an array is the one field of a
definition with nothing but the items in it; names, required lists and branches around them do
not come in (`sub_schemas_by_themselves`). What does come in is put on the field from outside:
its validators, which the rules choose by the definition that has it.
-/
import SchemaForms.Proofs.Form.Composition
import SchemaForms.Proofs.Form.Nodes
import SchemaForms.Proofs.Recursion.Calls
import SchemaForms.Proofs.Schema.Distinct
import SchemaForms.Proofs.Schema.Size

set_option autoImplicit false

namespace SchemaForms

open Recursion

/-! ## The walker, its calls left open -/

/-- A call of the walker. -/
inductive Task where
  /-- All fields of a definition. -/
  | definition (name : String) (schema : Schema)
  /-- One field of a definition, by its name. -/
  | field (key : String) (owner : Schema)
  /-- The template for the entries of an array, with the items that the array declares. -/
  | template (key : String) (items : Option Schema)

/-- What a call of the walker is answered with. -/
def Task.Answer : Task → Type
  | definition _ _ => Logged (List Field)
  | field _ _ => Logged Field
  | template _ _ => Logged Field

/-- Steps that make calls of the walker. -/
abbrev Walking : Type → Type :=
  Steps Task.Answer

namespace Schema

def askDefinition (name : String) (schema : Schema) : Walking (Logged (List Field)) :=
  Steps.answerTo (Task.definition name schema)

def askField (key : String) (owner : Schema) : Walking (Logged Field) :=
  Steps.answerTo (Task.field key owner)

def askTemplate (key : String) (items : Option Schema) : Walking (Logged Field) :=
  Steps.answerTo (Task.template key items)

def compileBranches (name : String) : List Schema → Walking (Logged (List Field))
  | [] => return pure []
  | branch :: rest => do
    let first ← askDefinition name branch
    let others ← compileBranches name rest
    return do return (← first) ++ (← others)

/-- A property of a definition: a group, or whatever the field of that name is. -/
def compileEntry (owner : Schema) (key : String) (property : Schema) :
    Walking (Logged Field) :=
  if property.isObject then do
    let children ← askDefinition key property
    return do return .group key (← children)
  else
    askField key owner

def compileProperties (owner : Schema) :
    List (String × Schema) → Walking (Logged (List Field))
  | [] => return pure []
  | (key, property) :: rest => do
    let first ← compileEntry owner key property
    let others ← compileProperties owner rest
    return do return (← first) :: (← others)

def compileDefinition (name : String) (schema : Schema) : Walking (Logged (List Field)) := do
  let inherited ← compileBranches name schema.allOf
  let own ← compileProperties schema schema.properties
  return do
    let inherited ← inherited
    let own ← own
    Logged.tell (schema.dangling.map (.danglingRequired name))
    return inherited ++ own

def compileField (rules : Registry) (key : String) (owner : Schema) : Walking (Logged Field) :=
  match owner.property? key with
  | none => return (return .control key none (rules.validators key owner))
  | some property =>
    if property.isArray then do
      let template ← askTemplate key property.items
      return do
        let template ← template
        let count ← repeatCount key property.minItems
        return .repeated key count template (rules.validators key owner)
    else return (return .control key property.initial (rules.validators key owner))

def compileTemplate (key : String) : Option Schema → Walking (Logged Field)
  | none => return do
    Logged.tell [.noItems key]
    return .control key none []
  | some item => compileEntry (wrapping key item) key item

end Schema

open Schema

/-- What the walker does in one call. -/
def compile (rules : Registry) : (task : Task) → Walking task.Answer
  | .definition name schema => compileDefinition name schema
  | .field key owner => compileField rules key owner
  | .template key items => compileTemplate key items

/-- What the library answers. -/
def Task.answer (rules : Registry) : (task : Task) → task.Answer
  | definition name schema => schema.fields rules name
  | field key owner => owner.field rules key
  | template key items => templateField rules key items

/-! ## Ranks -/

/-- How many calls may be nested in a call. A field counts for the property that it is looked up
to be, so it does not matter how much more the definition around that holds. -/
def Task.rank : Task → Nat
  | definition _ schema => 3 * schema.size + 2
  | field key owner =>
    match owner.property? key with
    | some property => 3 * property.size + 1
    | none => 0
  | template _ items =>
    match items with
    | some item => 3 * item.size + 3
    | none => 0

theorem Task.rank_field {key : String} {owner property : Schema}
    (h : owner.property? key = some property) :
    (field key owner).rank = 3 * property.size + 1 := by
  simp only [rank, h]

/-- A property is smaller than its definition. -/
theorem Task.rank_field_lt (key : String) (owner : Schema) :
    (field key owner).rank < (definition key owner).rank := by
  cases h : owner.property? key with
  | none =>
    simp only [rank, h]
    omega
  | some property =>
    have hsize := size_property (Keyed.mem_of_get? h)
    rw [rank_field h]
    simp only [rank]
    omega

/-! ## Which calls a call makes -/

section

variable {key : String} {next : Task}

theorem makes_compileBranches {name : String} {branches : List Schema}
    (h : (compileBranches name branches).Makes next) :
    ∃ branch ∈ branches, next = .definition name branch := by
  induction branches with
  | nil => exact absurd h (Steps.not_makes_pure _ next)
  | cons branch rest ih =>
    rcases Steps.Makes.of_bind h with h | ⟨answer, h⟩
    · exact ⟨branch, List.mem_cons_self, h.of_answerTo⟩
    · obtain ⟨other, hother, heq⟩ := ih h.of_map
      exact ⟨other, List.mem_cons_of_mem branch hother, heq⟩

theorem makes_compileEntry {owner property : Schema}
    (h : (compileEntry owner key property).Makes next) :
    next = .definition key property ∨ next = .field key owner := by
  unfold compileEntry at h
  split at h
  · exact .inl h.of_map.of_answerTo
  · exact .inr h.of_answerTo

theorem makes_compileProperties {owner : Schema} {properties : List (String × Schema)}
    (h : (compileProperties owner properties).Makes next) :
    ∃ key property, (key, property) ∈ properties ∧
      (next = .definition key property ∨ next = .field key owner) := by
  induction properties with
  | nil => exact absurd h (Steps.not_makes_pure _ next)
  | cons entry rest ih =>
    obtain ⟨key, property⟩ := entry
    rcases Steps.Makes.of_bind h with h | ⟨answer, h⟩
    · exact ⟨key, property, List.mem_cons_self, makes_compileEntry h⟩
    · obtain ⟨other, schema, hmem, heq⟩ := ih h.of_map
      exact ⟨other, schema, List.mem_cons_of_mem _ hmem, heq⟩

theorem makes_compileDefinition {name : String} {schema : Schema}
    (h : (compileDefinition name schema).Makes next) :
    (∃ branch ∈ schema.allOf, next = .definition name branch) ∨
      ∃ key property, (key, property) ∈ schema.properties ∧
        (next = .definition key property ∨ next = .field key schema) := by
  rcases Steps.Makes.of_bind h with h | ⟨answer, h⟩
  · exact .inl (makes_compileBranches h)
  · exact .inr (makes_compileProperties h.of_map)

theorem makes_compileField {rules : Registry} {owner : Schema}
    (h : (compileField rules key owner).Makes next) :
    ∃ property, owner.property? key = some property ∧ next = .template key property.items := by
  unfold compileField at h
  split at h
  · exact absurd h (Steps.not_makes_pure _ next)
  · rename_i property hproperty
    split at h
    · exact ⟨property, hproperty, h.of_map.of_answerTo⟩
    · exact absurd h (Steps.not_makes_pure _ next)

theorem makes_compileTemplate {items : Option Schema}
    (h : (compileTemplate key items).Makes next) :
    ∃ item, items = some item ∧
      (next = .definition key item ∨ next = .field key (wrapping key item)) := by
  cases items with
  | none => exact absurd h (Steps.not_makes_pure _ next)
  | some item => exact ⟨item, rfl, makes_compileEntry h⟩

end

/-! ## The walker ends -/

/-- The definition around a call has different names for its properties, at every depth. -/
def Task.Distinct : Task → Prop
  | definition _ schema => schema.Distinct
  | field _ owner => owner.Distinct
  | template _ items => ∀ item ∈ items, item.Distinct

/-- **Every call is of lower rank than the one that makes it.** Where the items of an array are
wrapped, the definition made for them is larger than they are, and its rank is not. -/
theorem rank_lt_of_makes {rules : Registry} {task next : Task}
    (h : (compile rules task).Makes next) : next.rank < task.rank := by
  cases task with
  | definition name schema =>
    rcases makes_compileDefinition h with ⟨branch, hbranch, rfl⟩ | ⟨key, property, hmem, rfl | rfl⟩
    · have hsize := size_branch hbranch
      simp only [Task.rank]
      omega
    · have hsize := size_property hmem
      simp only [Task.rank]
      omega
    · exact Task.rank_field_lt key schema
  | field key owner =>
    obtain ⟨property, hproperty, rfl⟩ := makes_compileField h
    rw [Task.rank_field hproperty]
    cases hitems : property.items with
    | none =>
      simp only [Task.rank]
      omega
    | some item =>
      have hsize := size_items hitems
      simp only [Task.rank]
      omega
  | template key items =>
    obtain ⟨item, rfl, rfl | rfl⟩ := makes_compileTemplate h
    · simp only [Task.rank]
      omega
    · -- The definition made for the items has them as its property, and that is what counts.
      rw [Task.rank_field (property?_wrapping key item)]
      simp only [Task.rank]
      omega

theorem Task.Distinct.of_makes {rules : Registry} {task next : Task} (hdistinct : task.Distinct)
    (h : (compile rules task).Makes next) : next.Distinct := by
  cases task with
  | definition name schema =>
    rcases makes_compileDefinition h with ⟨branch, hbranch, rfl⟩ | ⟨key, property, hmem, rfl | rfl⟩
    · exact Schema.Distinct.branch hdistinct hbranch
    · exact Schema.Distinct.property hdistinct hmem
    · exact hdistinct
  | field key owner =>
    obtain ⟨property, hproperty, rfl⟩ := makes_compileField h
    have hmem := Keyed.mem_of_get? hproperty
    intro item hitem
    exact (Schema.Distinct.property hdistinct hmem).items hitem
  | template key items =>
    obtain ⟨item, rfl, rfl | rfl⟩ := makes_compileTemplate h
    · exact hdistinct item rfl
    · exact (hdistinct item rfl).wrapping key

/-! ## The walker of the library solves the equations -/

section

variable {rules : Registry}

theorem run?_askDefinition (name : String) (schema : Schema) :
    (askDefinition name schema).run? (fun task => some (task.answer rules)) =
      some (schema.fields rules name) := rfl

theorem run?_askField (key : String) (owner : Schema) :
    (askField key owner).run? (fun task => some (task.answer rules)) =
      some (owner.field rules key) := rfl

theorem run?_compileBranches (name : String) (branches : List Schema) :
    (compileBranches name branches).run? (fun task => some (task.answer rules)) =
      some (branchFields rules name branches) := by
  induction branches with
  | nil =>
    rw [compileBranches, branchFields]
    rfl
  | cons branch rest ih =>
    rw [compileBranches, branchFields, Steps.run?_bind, run?_askDefinition,
      Option.bind_some, Steps.run?_bind, ih]
    rfl

/-- A property is compiled as what the definition has under its name. -/
theorem run?_compileEntry {owner property : Schema} {key : String}
    (h : owner.property? key = some property) :
    (compileEntry owner key property).run? (fun task => some (task.answer rules)) =
      some (entry rules owner key property) := by
  rw [compileEntry, entry]
  split
  · rfl
  · have hfield : owner.field rules key = valueField rules owner key property := by
      simp only [Schema.field, h]
    rw [run?_askField, hfield]

theorem run?_compileProperties {owner : Schema} {properties : List (String × Schema)}
    (h : ∀ entry ∈ properties, owner.property? entry.1 = some entry.2) :
    (compileProperties owner properties).run? (fun task => some (task.answer rules)) =
      some (propertyFields rules owner properties) := by
  induction properties with
  | nil =>
    rw [compileProperties, propertyFields]
    rfl
  | cons first rest ih =>
    obtain ⟨key, property⟩ := first
    obtain ⟨hfirst, hrest⟩ := List.forall_mem_cons.1 h
    rw [compileProperties, propertyFields_cons, Steps.run?_bind, run?_compileEntry hfirst,
      Option.bind_some, Steps.run?_bind, ih hrest]
    rfl

theorem run?_compileField (key : String) (owner : Schema) :
    (compileField rules key owner).run? (fun task => some (task.answer rules)) =
      some (owner.field rules key) := by
  unfold compileField Schema.field
  cases owner.property? key with
  | none => rfl
  | some property =>
    obtain ⟨keywords, properties, items, allOf⟩ := property
    simp only [valueField]
    split <;> rfl

theorem run?_compileTemplate (key : String) (items : Option Schema) :
    (compileTemplate key items).run? (fun task => some (task.answer rules)) =
      some (templateField rules key items) := by
  cases items with
  | none =>
    rw [templateField]
    rfl
  | some item =>
    rw [compileTemplate, templateField_entry, run?_compileEntry (property?_wrapping key item)]

/-- **What the library answers is what a call comes to, if its own calls are answered by the
library.** A property that the walker comes by must be the one that is looked up by its name. -/
theorem run?_compile {task : Task} (h : task.Distinct) :
    (compile rules task).run? (fun task => some (task.answer rules)) =
      some (task.answer rules) := by
  cases task with
  | definition name schema =>
    -- The library goes through the properties; the three functions look each of them up again.
    have hproperties : ∀ entry ∈ schema.properties, schema.property? entry.1 = some entry.2 := by
      intro entry hentry
      exact Schema.Distinct.property? h hentry
    change (compileDefinition name schema).run? _ = some (schema.fields rules name)
    rw [compileDefinition, fields_eq, Steps.run?_bind, run?_compileBranches, Option.bind_some,
      Steps.run?_bind, run?_compileProperties hproperties]
    rfl
  | field key owner => exact run?_compileField key owner
  | template key items => exact run?_compileTemplate key items

end

theorem descends_compile (rules : Registry) :
    Descends (compile rules) (fun _ => True) Task.rank where
  known_of_makes _ _ := trivial
  rank_lt _ h := rank_lt_of_makes h

theorem descends_compile_distinct (rules : Registry) :
    Descends (compile rules) Task.Distinct Task.rank where
  known_of_makes h hmakes := h.of_makes hmakes
  rank_lt _ h := rank_lt_of_makes h

/-! ## What is inside a field -/

/-- The field without the validators on itself; those further in stay. -/
def Field.inside : Field → Field
  | .control name initial _ => .control name initial []
  | .group name children => .group name children
  | .repeated name count template _ => .repeated name count template []

namespace Schema

variable {rules : Registry}

/-- A definition with nothing but one property has one field. -/
theorem fields_wrapping (name key : String) (property : Schema) :
    ((wrapping key property).fields rules name).value =
      [entryField rules (wrapping key property) key property] := by
  rw [fields_value]
  rfl

/-- The definition around a property decides about its validators and nothing else. -/
theorem inside_entryField (owner other : Schema) (key : String) (property : Schema) :
    (entryField rules owner key property).inside =
      (entryField rules other key property).inside := by
  rw [entryField, entryField]
  split
  · rfl
  · by_cases harray : property.isArray = true
    · rw [valueField_of_isArray rules owner key harray,
        valueField_of_isArray rules other key harray]
      rfl
    · rw [Bool.not_eq_true] at harray
      rw [valueField_of_not_isArray rules owner key harray,
        valueField_of_not_isArray rules other key harray]
      rfl

end Schema

/-! ## The statement -/

/-- **Schemas inside a schema are compiled by themselves.** The three functions of the walker,
each calling the others, come to an end for every schema, although an array goes on with a
definition larger than its items; and when the properties of a schema have different names at
every depth, as those of decoded schemas have, they come to what the library says. Whatever the
depth at which a schema is taken up for a field: if it is an object, the field is the group of
what it compiles to under any name, and if it is an array with items, the template is the one
field of the definition that has only the items. Two places that hold one schema under one key
have the same fields there, but for the validators on the fields themselves. -/
theorem sub_schemas_by_themselves (rules : Registry) :
    (∀ task budget, task.rank < budget →
      (answerWithin (compile rules) budget task).isSome = true ∧
        (task.Distinct → answerWithin (compile rules) budget task = some (task.answer rules))) ∧
    (∀ (schema : Schema) name position key owner property,
      schema.TakenUp position key owner property → property.isObject = true →
        ∀ other, Part.at? position schema (.block (schema.fields rules name).value) =
          some (.entry (.group key (property.fields rules other).value))) ∧
    (∀ (schema : Schema) name position key owner array item,
      schema.TakenUp position key owner array → array.isObject = false → array.isArray = true →
        array.items = some item →
          ∃ count template validators,
            Part.at? position schema (.block (schema.fields rules name).value) =
              some (.entry (.repeated key count template validators)) ∧
            ∀ other, ((wrapping key item).fields rules other).value = [template]) ∧
    ∀ (schema other : Schema) name name' position position' key owner owner' inner,
      schema.TakenUp position key owner inner → other.TakenUp position' key owner' inner →
        ∃ field field',
          Part.at? position schema (.block (schema.fields rules name).value) =
            some (.entry field) ∧
          Part.at? position' other (.block (other.fields rules name').value) =
            some (.entry field') ∧
          field.inside = field'.inside := by
  refine ⟨?_, ?_, ?_, ?_⟩
  · intro task budget hbudget
    refine ⟨(descends_compile rules).isSome_answerWithin trivial hbudget, ?_⟩
    intro hdistinct
    exact (descends_compile_distinct rules).answerWithin_eq (fun _ => run?_compile) hdistinct
      hbudget
  · intro schema name position key owner property htaken hobject other
    rw [htaken.part_eq name, entryField, if_pos hobject, fields_value_congr rules key other]
  · intro schema name position key owner array item htaken hobject harray hitems
    have hpart := htaken.part_eq_repeated rules hobject harray name
    rw [hitems, templateField_some] at hpart
    exact ⟨_, _, _, hpart, fun other => fields_wrapping other key item⟩
  · intro schema other name name' position position' key owner owner' inner htaken htaken'
    refine ⟨_, _, htaken.part_eq name, htaken'.part_eq name', ?_⟩
    exact inside_entryField owner owner' key inner

/-- The rows of a table, each a list of cells. -/
def rows : Schema where
  type := some (.single "array")
  items := some { type := some (.single "array"), items := some { minLength := some 1 } }

theorem distinct_rows : rows.Distinct :=
  .of_items rfl rfl rfl (.of_items rfl rfl rfl (.of_leaf rfl rfl rfl))

/-- A report that must have a table, as one branch of a definition. -/
def report : Schema where
  allOf := [{ required := ["table"], properties := [("table", rows)] }]

theorem sub_schemas_by_themselves_rows :
    (wrapping "table" rows).Distinct ∧
    answerWithin (compile .standard) 21 (.definition "page" (wrapping "table" rows)) =
      some ((wrapping "table" rows).fields .standard "page") ∧
    ∃ field field',
      Part.at? [.branch 0, .property "table"] report
        (.block (report.fields .standard "report").value) = some (.entry field) ∧
      Part.at? [.property "table"] (wrapping "table" rows)
        (.block ((wrapping "table" rows).fields .standard "page").value) = some (.entry field') ∧
      field.inside = field'.inside := by
  obtain ⟨hends, -, -, hinside⟩ := sub_schemas_by_themselves .standard
  have hdistinct := distinct_rows.wrapping "table"
  obtain ⟨-, hrun⟩ := hends (.definition "page" (wrapping "table" rows)) 21 (by decide)
  have hbranch : report.TakenUp [.branch 0, .property "table"] "table" _ rows :=
    ⟨⟨rfl, _, rfl, rfl, _, rfl, trivial⟩, rfl, rfl⟩
  have halone : (wrapping "table" rows).TakenUp [.property "table"] "table" _ rows :=
    ⟨⟨rfl, _, rfl, trivial⟩, rfl, rfl⟩
  exact ⟨hdistinct, hrun hdistinct, hinside _ _ "report" "page" _ _ _ _ _ _ hbranch halone⟩

end SchemaForms
