/-
Warnings, and the arrays that they are about.

A form falls short of its schema in two cases. An array may have to hold more entries than
copies will be rendered, and an array may not say what its entries are. The walker tells both,
and both from the depth of its recursion, so that one may ask whether something is told twice,
or of an array that is none, or not at all where branches, groups and templates lie in between.

The arrays that the walker compiles are therefore listed with the places where they stand, in
the order in which it is done with them (`Schema.arrays`). A place is in the list exactly if
the walker takes the schema there up for a field, and the field is neither a group nor a
control (`mem_arrays_iff`); no place is there twice; and the order is that of the walk, where
what is inside an array comes before the array (`Precedes`). What is told at the level of
warnings is what each array in the list has to tell, one after the other (`Schema.warns`), so
the number of copies is other than the bound exactly if there is a warning that says so.
-/
import SchemaForms.Proofs.Form.Composition
import SchemaForms.Proofs.Form.Repeats
import SchemaForms.Proofs.Schema.Size
import SchemaForms.Proofs.Spec.Order

set_option autoImplicit false

namespace SchemaForms

/-! ## Events of a level -/

namespace Logged

variable {α β : Type}

/-- The events told as warnings. -/
def warned (logged : Logged α) : List Event :=
  logged.events.filter fun event => event.level = .warn

@[simp] theorem warned_pure (a : α) : (pure a : Logged α).warned = [] := rfl

@[simp] theorem warned_bind (first : Logged α) (next : α → Logged β) :
    (first >>= next).warned = first.warned ++ (next first.value).warned :=
  List.filter_append _ _

theorem warned_tell_eq_nil {events : List Event} (h : ∀ event ∈ events, event.level ≠ .warn) :
    (tell events).warned = [] := by
  refine List.filter_eq_nil_iff.2 fun event hevent => ?_
  simp only [decide_eq_true_eq]
  exact h event hevent

end Logged

/-! ## Compiled arrays -/

/-- An array inside a definition: where it stands, and the name of its field. -/
structure CompiledArray where
  position : List SchemaStep
  name : String
  schema : Schema

namespace CompiledArray

/-- The array, seen from one step further out. -/
def below (step : SchemaStep) (array : CompiledArray) : CompiledArray :=
  { array with position := step :: array.position }

/-- What is told about the entries of an array: whether it says what they are. -/
def itemWarnings (name : String) (items : Option Schema) : List Event :=
  if items.isNone then [.noItems name] else []

/-- What is told about the number of copies: whether it is not the bound. -/
def copyWarnings (name : String) (minItems : Option Nat) : List Event :=
  match minItems with
  | some bound => if repeatLimit < bound then [.repeatLimit name bound repeatLimit] else []
  | none => []

/-- What is told about the array itself. -/
def warnings (array : CompiledArray) : List Event :=
  itemWarnings array.name array.schema.items ++ copyWarnings array.name array.schema.minItems

end CompiledArray

open CompiledArray

namespace Schema

mutual

/-- The arrays that are compiled on the way through a definition, each behind those inside it. -/
def arrays : Schema → List CompiledArray
  | ⟨_, properties, _, allOf⟩ => branchArrays 0 allOf ++ propertyArrays properties

/-- Those in branches, the first of which has the given index. -/
def branchArrays (index : Nat) : List Schema → List CompiledArray
  | [] => []
  | branch :: rest =>
    (arrays branch).map (below (.branch index)) ++ branchArrays (index + 1) rest

def propertyArrays : List (String × Schema) → List CompiledArray
  | [] => []
  | (name, property) :: rest =>
    (if property.isObject then arrays property else valueArrays name property).map
      (below (.property name)) ++ propertyArrays rest

/-- Those in a schema that is no group: itself, if it is an array, behind its template. -/
def valueArrays (name : String) : Schema → List CompiledArray
  | ⟨keywords, properties, items, allOf⟩ =>
    if isArray ⟨keywords, properties, items, allOf⟩ then
      itemArrays name items ++ [⟨[], name, ⟨keywords, properties, items, allOf⟩⟩]
    else []

def itemArrays (name : String) : Option Schema → List CompiledArray
  | none => []
  | some item =>
    (if item.isObject then arrays item else valueArrays name item).map (below .items)

end

/-- The arrays that are compiled where a schema is taken up for a field. -/
def entryArrays (name : String) (schema : Schema) : List CompiledArray :=
  if schema.isObject then schema.arrays else schema.valueArrays name

theorem arrays_eq (schema : Schema) :
    schema.arrays = branchArrays 0 schema.allOf ++ propertyArrays schema.properties := by
  obtain ⟨keywords, properties, items, allOf⟩ := schema
  rw [arrays]

theorem valueArrays_eq (name : String) (schema : Schema) :
    schema.valueArrays name =
      if schema.isArray then itemArrays name schema.items ++ [⟨[], name, schema⟩] else [] := by
  obtain ⟨keywords, properties, items, allOf⟩ := schema
  rw [valueArrays]

theorem itemArrays_some (name : String) (item : Schema) :
    itemArrays name (some item) = (item.entryArrays name).map (below .items) := by
  rw [itemArrays, entryArrays]

theorem branchArrays_eq (index : Nat) (branches : List Schema) :
    branchArrays index branches =
      (branches.zipIdx index).flatMap fun branch =>
        branch.1.arrays.map (below (.branch branch.2)) := by
  induction branches generalizing index with
  | nil => rw [branchArrays, List.zipIdx_nil, List.flatMap_nil]
  | cons branch rest ih => rw [branchArrays, List.zipIdx_cons, List.flatMap_cons, ih]

theorem propertyArrays_eq (properties : List (String × Schema)) :
    propertyArrays properties =
      properties.flatMap fun property =>
        (property.2.entryArrays property.1).map (below (.property property.1)) := by
  induction properties with
  | nil => rw [propertyArrays, List.flatMap_nil]
  | cons property rest ih =>
    obtain ⟨name, schema⟩ := property
    rw [propertyArrays, List.flatMap_cons, ih, entryArrays]

/-! ## What is told -/

section

variable {rules : Registry}

theorem warned_repeatCount (name : String) (minItems : Option Nat) :
    (repeatCount name minItems).warned = copyWarnings name minItems := by
  cases minItems with
  | none => rfl
  | some bound =>
    rw [repeatCount, copyWarnings, Option.getD_some]
    split <;> rfl

theorem flatMap_map_below (step : SchemaStep) (arrays : List CompiledArray) :
    (arrays.map (below step)).flatMap warnings = arrays.flatMap warnings := by
  rw [List.flatMap_map]
  rfl

/-- The warnings that a schema gives rise to are those of its arrays, in their order. -/
structure Warns (rules : Registry) (schema : Schema) : Prop where
  fields : ∀ name, (schema.fields rules name).warned = schema.arrays.flatMap warnings
  value : ∀ owner name,
    (valueField rules owner name schema).warned = (schema.valueArrays name).flatMap warnings

theorem Warns.entry {schema : Schema} (h : Warns rules schema) (owner : Schema) (name : String) :
    (Schema.entry rules owner name schema).warned = (schema.entryArrays name).flatMap warnings := by
  rw [Schema.entry, entryArrays]
  split
  · rw [Logged.warned_bind, Logged.warned_pure, List.append_nil, h.fields]
  · exact h.value owner name

theorem warned_branchFields {branches : List Schema} (h : ∀ branch ∈ branches, Warns rules branch)
    (name : String) (index : Nat) :
    (branchFields rules name branches).warned =
      (branchArrays index branches).flatMap warnings := by
  induction branches generalizing index with
  | nil =>
    rw [branchFields, branchArrays]
    rfl
  | cons branch rest ih =>
    obtain ⟨hfirst, hrest⟩ := List.forall_mem_cons.1 h
    rw [branchFields, branchArrays, List.flatMap_append, flatMap_map_below, ← hfirst.fields name,
      ← ih hrest (index + 1)]
    simp only [Logged.warned_bind, Logged.warned_pure, List.append_nil]

theorem warned_propertyFields {properties : List (String × Schema)}
    (h : ∀ name property, (name, property) ∈ properties → Warns rules property)
    (owner : Schema) :
    (propertyFields rules owner properties).warned =
      (propertyArrays properties).flatMap warnings := by
  induction properties with
  | nil =>
    rw [propertyFields, propertyArrays]
    rfl
  | cons property rest ih =>
    obtain ⟨name, schema⟩ := property
    have hfirst := (h name schema List.mem_cons_self).entry owner name
    have hrest := ih fun name property hmem => h name property (List.mem_cons_of_mem _ hmem)
    rw [propertyFields_cons, propertyArrays_eq, List.flatMap_cons, ← propertyArrays_eq,
      List.flatMap_append, flatMap_map_below, ← hfirst, ← hrest]
    simp only [Logged.warned_bind, Logged.warned_pure, List.append_nil]

theorem warned_templateField {items : Option Schema}
    (h : ∀ item, items = some item → Warns rules item) (name : String) :
    (templateField rules name items).warned =
      (itemArrays name items).flatMap warnings ++ itemWarnings name items := by
  cases items with
  | none =>
    rw [templateField, itemArrays]
    rfl
  | some item =>
    rw [templateField_entry, itemArrays_some, flatMap_map_below, (h item rfl).entry]
    exact (List.append_nil _).symm

/-- **What is told about a definition is what each of its arrays has to tell**, one after the
other. -/
theorem warns (rules : Registry) (schema : Schema) : Warns rules schema := by
  induction schema using inside_induction with
  | h schema hbranches hproperties hitems =>
    refine ⟨fun name => ?_, fun owner name => ?_⟩
    · -- A required name without a property is told as well, but not as a warning.
      have hdangling : ∀ event ∈ schema.dangling.map (Event.danglingRequired name),
          event.level ≠ .warn := by
        intro event hevent
        obtain ⟨field, -, rfl⟩ := List.mem_map.1 hevent
        exact nofun
      rw [fields_eq, arrays_eq, List.flatMap_append, ← warned_branchFields hbranches name 0,
        ← warned_propertyFields hproperties schema]
      simp only [Logged.warned_bind, Logged.warned_pure, Logged.warned_tell_eq_nil hdangling,
        List.append_nil]
    · rw [valueArrays_eq]
      obtain ⟨keywords, properties, items, allOf⟩ := schema
      rw [valueField]
      split
      · -- The template comes first, then what is to be told about the array itself.
        simp only [Logged.warned_bind, Logged.warned_pure, List.append_nil, List.flatMap_append,
          List.flatMap_cons, List.flatMap_nil, warned_templateField hitems name,
          warned_repeatCount, List.append_assoc]
        rfl
      · rfl

end

/-! ## Which arrays are listed -/

section

variable {name : String} {array : Schema} {step : SchemaStep} {rest : List SchemaStep}

theorem nil_notMem_below (step : SchemaStep) (arrays : List CompiledArray) :
    ⟨[], name, array⟩ ∉ arrays.map (below step) := by
  intro hmem
  obtain ⟨inner, -, heq⟩ := List.mem_map.1 hmem
  exact absurd (congrArg CompiledArray.position heq) (List.cons_ne_nil _ _)

theorem mem_below {first : SchemaStep} {arrays : List CompiledArray} :
    ⟨step :: rest, name, array⟩ ∈ arrays.map (below first) ↔
      first = step ∧ ⟨rest, name, array⟩ ∈ arrays := by
  rw [List.mem_map]
  constructor
  · rintro ⟨⟨position, key, inner⟩, hmem, heq⟩
    simp only [below, CompiledArray.mk.injEq, List.cons.injEq] at heq
    obtain ⟨⟨rfl, rfl⟩, rfl, rfl⟩ := heq
    exact ⟨rfl, hmem⟩
  · rintro ⟨rfl, hmem⟩
    exact ⟨_, hmem, rfl⟩

theorem mem_branchArrays {branches : List Schema} :
    ⟨step :: rest, name, array⟩ ∈ branchArrays 0 branches ↔
      ∃ index branch, step = .branch index ∧ branches[index]? = some branch ∧
        ⟨rest, name, array⟩ ∈ branch.arrays := by
  simp only [branchArrays_eq, List.mem_flatMap, mem_below, Prod.exists,
    List.mk_mem_zipIdx_iff_getElem?]
  constructor
  · rintro ⟨branch, index, hbranch, rfl, hmem⟩
    exact ⟨index, branch, rfl, hbranch, hmem⟩
  · rintro ⟨index, branch, rfl, hbranch, hmem⟩
    exact ⟨branch, index, hbranch, rfl, hmem⟩

theorem mem_propertyArrays {properties : List (String × Schema)} :
    ⟨step :: rest, name, array⟩ ∈ propertyArrays properties ↔
      ∃ key property, step = .property key ∧ (key, property) ∈ properties ∧
        ⟨rest, name, array⟩ ∈ property.entryArrays key := by
  simp only [propertyArrays_eq, List.mem_flatMap, mem_below, Prod.exists]
  constructor
  · rintro ⟨key, property, hmem, rfl, hrest⟩
    exact ⟨key, property, rfl, hmem, hrest⟩
  · rintro ⟨key, property, rfl, hmem, hrest⟩
    exact ⟨key, property, hmem, rfl, hrest⟩

theorem mem_itemArrays {key : String} {items : Option Schema} :
    ⟨step :: rest, name, array⟩ ∈ itemArrays key items ↔
      step = .items ∧ ∃ item, items = some item ∧ ⟨rest, name, array⟩ ∈ item.entryArrays key := by
  cases items with
  | none => simp [itemArrays]
  | some item => simp [itemArrays_some, mem_below, eq_comm]

theorem nil_notMem_arrays (schema : Schema) : ⟨[], name, array⟩ ∉ schema.arrays := by
  rw [arrays_eq, branchArrays_eq, propertyArrays_eq, List.mem_append, List.mem_flatMap,
    List.mem_flatMap]
  rintro (⟨branch, -, hmem⟩ | ⟨property, -, hmem⟩)
  · exact nil_notMem_below _ _ hmem
  · exact nil_notMem_below _ _ hmem

theorem nil_notMem_itemArrays (key : String) (items : Option Schema) :
    ⟨[], name, array⟩ ∉ itemArrays key items := by
  cases items with
  | none => exact List.not_mem_nil
  | some item =>
    rw [itemArrays_some]
    exact nil_notMem_below _ _

/-- The arrays that are compiled where the walker comes to a schema in a setting. -/
def arraysIn (setting : Setting) (schema : Schema) : List CompiledArray :=
  match setting with
  | .definition => schema.arrays
  | .entry name _ => schema.entryArrays name

theorem arraysIn_of_opens {setting : Setting} {schema : Schema}
    (h : setting.opens schema = true) : schema.arraysIn setting = schema.arrays := by
  cases setting with
  | definition => rfl
  | entry name owner =>
    have hobject : schema.isObject = true := h
    rw [arraysIn, entryArrays, if_pos hobject]

theorem arraysIn_of_value {key : String} {owner schema : Schema} (h : schema.isObject = false) :
    schema.arraysIn (.entry key owner) = schema.valueArrays key := by
  rw [arraysIn, entryArrays, h, if_neg Bool.false_ne_true]

/-- What is listed further in is what the next schema on the way lists. -/
theorem mem_arraysIn_cons {setting : Setting} {schema : Schema}
    (hdistinct : Keyed.Distinct schema.properties) :
    ⟨step :: rest, name, array⟩ ∈ schema.arraysIn setting ↔
      setting.follows schema step = true ∧ ∃ inner, schema.step? step = some inner ∧
        ⟨rest, name, array⟩ ∈ inner.arraysIn (setting.next schema inner step) := by
  by_cases hopens : setting.opens schema = true
  · -- A schema that is gone into lists what is in its branches and properties.
    rw [arraysIn_of_opens hopens, arrays_eq, List.mem_append, mem_branchArrays, mem_propertyArrays]
    constructor
    · rintro (⟨index, branch, rfl, hbranch, hmem⟩ | ⟨key, property, rfl, hproperty, hmem⟩)
      · exact ⟨hopens, branch, hbranch, hmem⟩
      · exact ⟨hopens, property, hdistinct.get?_of_mem hproperty, hmem⟩
    · rintro ⟨hfollows, inner, hinner, hmem⟩
      cases step with
      | branch index => exact .inl ⟨index, inner, rfl, hinner, hmem⟩
      | property key => exact .inr ⟨key, inner, rfl, Keyed.mem_of_get? hinner, hmem⟩
      | items =>
        rw [Setting.follows, hopens] at hfollows
        cases hfollows
  · cases setting with
    | definition => exact absurd rfl hopens
    | entry key owner =>
      -- One that is not lists what is in its items, and that only if it is an array.
      have hobject : schema.isObject = false := Bool.eq_false_of_not_eq_true hopens
      rw [arraysIn_of_value hobject, valueArrays_eq]
      constructor
      · intro hmem
        split at hmem
        · rename_i harray
          rw [List.mem_append, mem_itemArrays, List.mem_singleton] at hmem
          rcases hmem with ⟨rfl, item, hitem, hmem⟩ | heq
          · refine ⟨?_, item, hitem, hmem⟩
            rw [Setting.follows, Setting.opens, hobject, harray]
            rfl
          · exact absurd (congrArg CompiledArray.position heq) (List.cons_ne_nil _ _)
        · exact absurd hmem List.not_mem_nil
      · rintro ⟨hfollows, inner, hinner, hmem⟩
        cases step with
        | branch index => exact absurd hfollows hopens
        | property other => exact absurd hfollows hopens
        | items =>
          have harray : schema.isArray = true := (Bool.and_eq_true_iff.1 hfollows).2
          rw [if_pos harray, List.mem_append, mem_itemArrays]
          exact .inl ⟨rfl, inner, hinner, hmem⟩

/-- What is listed for the place itself is the schema there, if it is compiled to an array. -/
theorem mem_arraysIn_nil {setting : Setting} {schema : Schema} :
    ⟨[], name, array⟩ ∈ schema.arraysIn setting ↔
      ∃ owner, setting = .entry name owner ∧ schema = array ∧ array.isObject = false ∧
        array.isArray = true := by
  cases setting with
  | definition =>
    constructor
    · intro hmem
      exact absurd hmem (nil_notMem_arrays schema)
    · rintro ⟨owner, hsetting, -⟩
      cases hsetting
  | entry key owner =>
    by_cases hobject : schema.isObject = true
    · rw [arraysIn_of_opens (show Setting.opens (.entry key owner) schema = true from hobject)]
      constructor
      · intro hmem
        exact absurd hmem (nil_notMem_arrays schema)
      · rintro ⟨owner, -, rfl, hvalue, -⟩
        rw [hobject] at hvalue
        cases hvalue
    · rw [Bool.not_eq_true] at hobject
      rw [arraysIn_of_value hobject, valueArrays_eq]
      constructor
      · intro hmem
        split at hmem
        · rename_i harray
          rw [List.mem_append, List.mem_singleton, CompiledArray.mk.injEq] at hmem
          rcases hmem with hmem | ⟨-, rfl, rfl⟩
          · exact absurd hmem (nil_notMem_itemArrays key schema.items)
          · exact ⟨owner, rfl, rfl, hobject, harray⟩
        · exact absurd hmem List.not_mem_nil
      · rintro ⟨other, hsetting, rfl, -, harray⟩
        obtain ⟨rfl, rfl⟩ := Setting.entry.inj hsetting
        rw [if_pos harray, List.mem_append, List.mem_singleton]
        exact .inr rfl

/-- The arrays listed are those that the walker comes to. The induction is on the position. -/
theorem mem_arraysIn {position : List SchemaStep} {setting : Setting} {schema : Schema}
    (hdistinct : schema.Distinct) :
    ⟨position, name, array⟩ ∈ schema.arraysIn setting ↔
      ∃ owner, schema.Compiles setting position ∧ Schema.at? position schema = some array ∧
        schema.settingAt setting position = .entry name owner ∧ array.isObject = false ∧
        array.isArray = true := by
  induction position generalizing setting schema with
  | nil =>
    rw [mem_arraysIn_nil]
    simp only [Compiles, Schema.at?, settingAt, Option.some.injEq, true_and]
    constructor
    · rintro ⟨owner, hsetting, hsame, hvalue⟩
      exact ⟨owner, hsame, hsetting, hvalue⟩
    · rintro ⟨owner, hsame, hsetting, hvalue⟩
      exact ⟨owner, hsetting, hsame, hvalue⟩
  | cons step rest ih =>
    rw [mem_arraysIn_cons hdistinct.properties]
    constructor
    · rintro ⟨hfollows, inner, hinner, hmem⟩
      obtain ⟨owner, hcompiles, hat, hsetting, hvalue⟩ := (ih (hdistinct.step? hinner)).1 hmem
      refine ⟨owner, ⟨hfollows, inner, hinner, hcompiles⟩, ?_, ?_, hvalue⟩
      · rw [Schema.at?, hinner]
        exact hat
      · simp only [settingAt, hinner]
        exact hsetting
    · rintro ⟨owner, ⟨hfollows, inner, hinner, hcompiles⟩, hat, hsetting, hvalue⟩
      rw [Schema.at?, hinner, Option.bind_some] at hat
      simp only [settingAt, hinner] at hsetting
      exact ⟨hfollows, inner, hinner,
        (ih (hdistinct.step? hinner)).2 ⟨owner, hcompiles, hat, hsetting, hvalue⟩⟩

/-- **An array is listed for every place where one is compiled**, and for no other. -/
theorem mem_arrays_iff {schema : Schema} (hdistinct : schema.Distinct)
    {position : List SchemaStep} :
    ⟨position, name, array⟩ ∈ schema.arrays ↔
      ∃ owner, schema.TakenUp position name owner array ∧ array.isObject = false ∧
        array.isArray = true := by
  have hlisted : schema.arraysIn .definition = schema.arrays := rfl
  rw [← hlisted, mem_arraysIn hdistinct]
  constructor
  · rintro ⟨owner, hcompiles, hat, hsetting, hvalue⟩
    exact ⟨owner, ⟨hcompiles, hat, hsetting⟩, hvalue⟩
  · rintro ⟨owner, ⟨hcompiles, hat, hsetting⟩, hvalue⟩
    exact ⟨owner, hcompiles, hat, hsetting, hvalue⟩

end

/-! ## In which order they are listed -/

/-- The walker is done with the first place before it is done with the second, where both are
on its way through a schema. -/
inductive Precedes : Schema → List SchemaStep → List SchemaStep → Prop where
  /-- It is done with what is inside a place before it is done with the place. -/
  | inside (schema : Schema) (step : SchemaStep) (rest : List SchemaStep) :
      Precedes schema (step :: rest) []
  | branches (schema : Schema) {index next : Nat} (h : index < next)
      (rest others : List SchemaStep) :
      Precedes schema (.branch index :: rest) (.branch next :: others)
  | branch (schema : Schema) (index : Nat) (key : String) (rest others : List SchemaStep) :
      Precedes schema (.branch index :: rest) (.property key :: others)
  | properties (schema : Schema) {key next : String}
      (h : (Keyed.keys schema.properties).idxOf key < (Keyed.keys schema.properties).idxOf next)
      (rest others : List SchemaStep) :
      Precedes schema (.property key :: rest) (.property next :: others)
  | further {schema inner : Schema} {step : SchemaStep} {rest others : List SchemaStep}
      (hinner : schema.step? step = some inner) (h : Precedes inner rest others) :
      Precedes schema (step :: rest) (step :: others)

theorem Precedes.asymm {schema : Schema} {place other : List SchemaStep}
    (h : schema.Precedes place other) : ¬ schema.Precedes other place := by
  induction h with
  | inside => exact nofun
  | branches schema hlt =>
    intro hback
    cases hback with
    | branches _ hgt => exact Nat.lt_asymm hlt hgt
    | further => exact Nat.lt_irrefl _ hlt
  | branch => exact nofun
  | properties schema hlt =>
    intro hback
    cases hback with
    | properties _ hgt => exact Nat.lt_asymm hlt hgt
    | further => exact Nat.lt_irrefl _ hlt
  | further hinner _ ih =>
    intro hback
    cases hback with
    | branches _ hlt => exact Nat.lt_irrefl _ hlt
    | properties _ hlt => exact Nat.lt_irrefl _ hlt
    | further hinner' hback =>
      obtain rfl := Option.some.inj (hinner.symm.trans hinner')
      exact ih hback

/-- The arrays stand in the order of the walk. -/
def InOrder (schema : Schema) (arrays : List CompiledArray) : Prop :=
  arrays.Pairwise fun array other => schema.Precedes array.position other.position

theorem InOrder.below {schema inner : Schema} {step : SchemaStep} {arrays : List CompiledArray}
    (h : inner.InOrder arrays) (hinner : schema.step? step = some inner) :
    schema.InOrder (arrays.map (CompiledArray.below step)) :=
  List.pairwise_map.2 (h.imp (Precedes.further hinner))

theorem InOrder.nodup {schema : Schema} {arrays : List CompiledArray}
    (h : schema.InOrder arrays) : (arrays.map CompiledArray.position).Nodup := by
  refine List.pairwise_map.2 (h.imp fun hprecedes heq => ?_)
  rw [heq] at hprecedes
  exact hprecedes.asymm hprecedes

section

variable {schema : Schema}

theorem inOrder_branchArrays (h : ∀ branch ∈ schema.allOf, branch.InOrder branch.arrays) :
    schema.InOrder (branchArrays 0 schema.allOf) := by
  have hindices : (schema.allOf.zipIdx 0).Pairwise fun branch other => branch.2 < other.2 := by
    rw [← List.pairwise_map, List.zipIdx_map_snd]
    exact List.pairwise_lt_range'
  rw [branchArrays_eq, InOrder, List.pairwise_flatMap]
  constructor
  · intro branch hbranch
    have hindex := List.mk_mem_zipIdx_iff_getElem?.1 hbranch
    exact InOrder.below (h branch.1 (List.mem_of_getElem? hindex)) hindex
  · refine hindices.imp fun hlt array harray other hother => ?_
    obtain ⟨array, -, rfl⟩ := List.mem_map.1 harray
    obtain ⟨other, -, rfl⟩ := List.mem_map.1 hother
    exact .branches schema hlt _ _

theorem inOrder_propertyArrays (hdistinct : Keyed.Distinct schema.properties)
    (h : ∀ name property, (name, property) ∈ schema.properties →
      property.InOrder (property.entryArrays name)) :
    schema.InOrder (propertyArrays schema.properties) := by
  have hindices : (Keyed.keys schema.properties).Pairwise fun key next =>
      (Keyed.keys schema.properties).idxOf key < (Keyed.keys schema.properties).idxOf next := by
    refine List.pairwise_iff_getElem.2 fun i j hi hj hlt => ?_
    rw [hdistinct.idxOf_getElem i hi, hdistinct.idxOf_getElem j hj]
    exact hlt
  rw [propertyArrays_eq, InOrder, List.pairwise_flatMap]
  constructor
  · intro property hproperty
    exact InOrder.below (h property.1 property.2 hproperty) (hdistinct.get?_of_mem hproperty)
  · refine (List.pairwise_map.1 hindices).imp fun hlt array harray other hother => ?_
    obtain ⟨array, -, rfl⟩ := List.mem_map.1 harray
    obtain ⟨other, -, rfl⟩ := List.mem_map.1 hother
    exact .properties schema hlt _ _

theorem inOrder_itemArrays (name : String)
    (h : ∀ item, schema.items = some item → item.InOrder (item.entryArrays name)) :
    schema.InOrder (itemArrays name schema.items) := by
  cases hitems : schema.items with
  | none => exact .nil
  | some item =>
    rw [itemArrays_some]
    exact (h item hitems).below hitems

theorem inOrder_entryArrays {name : String} (harrays : schema.InOrder schema.arrays)
    (hvalue : schema.InOrder (schema.valueArrays name)) :
    schema.InOrder (schema.entryArrays name) := by
  rw [entryArrays]
  split
  · exact harrays
  · exact hvalue

end

/-- **The arrays are listed in the order of the walk.** -/
theorem inOrder_arrays (schema : Schema) : schema.Distinct →
    schema.InOrder schema.arrays ∧ ∀ name, schema.InOrder (schema.valueArrays name) := by
  induction schema using inside_induction with
  | h schema hbranches hproperties hitems =>
    intro hdistinct
    constructor
    · rw [arrays_eq, InOrder, List.pairwise_append]
      refine ⟨inOrder_branchArrays ?_, inOrder_propertyArrays hdistinct.properties ?_, ?_⟩
      · intro branch hbranch
        exact (hbranches branch hbranch (hdistinct.branch hbranch)).1
      · intro name property hproperty
        obtain ⟨harrays, hvalue⟩ :=
          hproperties name property hproperty (hdistinct.property hproperty)
        exact inOrder_entryArrays harrays (hvalue name)
      · -- Whatever is in a branch comes before whatever is in a property.
        intro array harray other hother
        rw [branchArrays_eq, List.mem_flatMap] at harray
        rw [propertyArrays_eq, List.mem_flatMap] at hother
        obtain ⟨branch, -, harray⟩ := harray
        obtain ⟨property, -, hother⟩ := hother
        obtain ⟨array, -, rfl⟩ := List.mem_map.1 harray
        obtain ⟨other, -, rfl⟩ := List.mem_map.1 hother
        exact .branch schema _ _ _ _
    · intro name
      rw [valueArrays_eq]
      split
      · rw [InOrder, List.pairwise_append]
        refine ⟨inOrder_itemArrays name ?_, List.pairwise_singleton _ _, ?_⟩
        · intro item hitem
          obtain ⟨harrays, hvalue⟩ := hitems item hitem (hdistinct.items hitem)
          exact inOrder_entryArrays harrays (hvalue name)
        · -- What is in the template is further in than the array itself.
          intro array harray other hother
          rw [List.mem_singleton] at hother
          obtain ⟨position, key, inner⟩ := array
          cases position with
          | nil => exact absurd harray (nil_notMem_itemArrays name schema.items)
          | cons step rest =>
            rw [hother]
            exact .inside schema step rest
      · exact .nil

end Schema

/-! ## Copies and bounds -/

/-- Is it the event of an array that gets fewer copies than it must have entries? -/
def Event.isRepeatLimit : Event → Bool
  | repeatLimit _ _ _ => true
  | _ => false

namespace CompiledArray

theorem filter_itemWarnings (name : String) (items : Option Schema) :
    (itemWarnings name items).filter Event.isRepeatLimit = [] := by
  rw [itemWarnings]
  split <;> rfl

theorem filter_copyWarnings (name : String) (minItems : Option Nat) :
    (copyWarnings name minItems).filter Event.isRepeatLimit = copyWarnings name minItems := by
  cases minItems with
  | none => rfl
  | some bound =>
    rw [copyWarnings]
    split <;> rfl

/-- The number of copies is the bound, or else it is told that it is not, once. -/
theorem copies_iff {array : CompiledArray} {bound : Nat}
    (h : array.schema.minItems = some bound) :
    (min bound repeatLimit ≠ bound ↔ array.warnings.filter Event.isRepeatLimit =
      [.repeatLimit array.name bound repeatLimit]) ∧
    (min bound repeatLimit = bound ↔ array.warnings.filter Event.isRepeatLimit = []) := by
  rw [warnings, List.filter_append, filter_itemWarnings, filter_copyWarnings, List.nil_append, h,
    copyWarnings]
  by_cases hlimit : repeatLimit < bound
  · have hcopies : min bound repeatLimit ≠ bound := by omega
    simp [hlimit, hcopies]
  · have hcopies : min bound repeatLimit = bound := by omega
    simp [hlimit, hcopies]

end CompiledArray

/-! ## Documents -/

theorem warned_ofDefinitions (rules : Registry) (schemas : List (String × Schema)) :
    (Form.ofDefinitions rules schemas).warned =
      schemas.flatMap fun definition => definition.2.arrays.flatMap warnings := by
  induction schemas with
  | nil => rfl
  | cons definition rest ih =>
    obtain ⟨name, schema⟩ := definition
    have hfirst : (Form.ofDefinition rules name schema).warned =
        schema.arrays.flatMap warnings := by
      rw [Form.ofDefinition, Logged.warned_bind, Logged.warned_bind,
        (Schema.warns rules schema).fields]
      exact List.append_nil _
    rw [Form.ofDefinitions, List.flatMap_cons, ← ih, ← hfirst]
    simp only [Logged.warned_bind, Logged.warned_pure, List.append_nil]

/-- **Nothing is cut short in silence.** The warnings told while a document is compiled are those
of the arrays of its definitions, one definition after the other and one array after the other:
each array tells that it has no items, if it has none, and then that it gets fewer copies than
it must have entries, with its bound and the limit, if that is so. The arrays listed for a
definition are those that the walker takes up for a field and that are no objects, each place
once; those inside an array come before it. So an array with a bound gets another number of
copies exactly if there is one warning that says so, and the bound exactly if there is none. -/
theorem warnings_match_arrays (rules : Registry) (document : Document) :
    (document.schemas? = none → document.forms rules = .error .noSchemas) ∧
    ∀ schemas, document.schemas? = some schemas →
      ∃ forms, document.forms rules = .ok forms ∧
        forms.warned =
          schemas.flatMap (fun definition => definition.2.arrays.flatMap warnings) ∧
        ∀ name schema, (name, schema) ∈ schemas → schema.Distinct →
          (∀ position key array, ⟨position, key, array⟩ ∈ schema.arrays ↔
            ∃ owner, schema.TakenUp position key owner array ∧ array.isObject = false ∧
              array.isArray = true) ∧
          (schema.arrays.map CompiledArray.position).Nodup ∧ schema.InOrder schema.arrays ∧
          ∃ form ∈ forms.value, form.definition = name ∧
            ∀ array ∈ schema.arrays, ∃ count template validators,
              Part.at? array.position schema (.block form.fields) =
                some (.entry (.repeated array.name count template validators)) ∧
              ∀ bound, array.schema.minItems = some bound →
                (count ≠ bound ↔ array.warnings.filter Event.isRepeatLimit =
                  [.repeatLimit array.name bound repeatLimit]) ∧
                (count = bound ↔ array.warnings.filter Event.isRepeatLimit = []) := by
  refine ⟨fun hschemas => by rw [Document.forms, hschemas], fun schemas hschemas => ?_⟩
  have hforms : document.forms rules = .ok (do
      Logged.tell [.compilingDocument schemas.length]
      Form.ofDefinitions rules schemas) := by
    rw [Document.forms, hschemas]
  refine ⟨_, hforms, warned_ofDefinitions rules schemas, ?_⟩
  intro name schema hdefinition hdistinct
  obtain ⟨hinOrder, -⟩ := Schema.inOrder_arrays schema hdistinct
  refine ⟨fun position key array => Schema.mem_arrays_iff hdistinct, hinOrder.nodup,
    hinOrder, (Form.ofDefinition rules name schema).value, ?_, rfl, ?_⟩
  · rw [Logged.value_bind, value_ofDefinitions]
    exact List.mem_map.2 ⟨(name, schema), hdefinition, rfl⟩
  · intro array harray
    obtain ⟨owner, htaken, hobject, hisArray⟩ := (Schema.mem_arrays_iff hdistinct).1 harray
    refine ⟨_, _, _, htaken.part_eq_repeated rules hobject hisArray name, ?_⟩
    intro bound hbound
    rw [value_repeatCount, hbound, Option.getD_some]
    exact copies_iff hbound

/-- The sheets of a ledger: at least two hundred, each with at least a hundred and fifty entries
that it says nothing about. -/
def sheets : Schema where
  type := some (.single "array")
  minItems := some 200
  items := some { type := some (.single "array"), minItems := some 150 }

def ledger : Document where
  definitions := some [("ledger", .wrapping "sheets" sheets)]

theorem warnings_match_arrays_ledger :
    ∃ forms, ledger.forms .standard = .ok forms ∧
      forms.warned = [.noItems "sheets", .repeatLimit "sheets" 150 100,
        .repeatLimit "sheets" 200 100] ∧
      ∃ form ∈ forms.value, ∃ count template validators,
        Part.at? [.property "sheets"] (.wrapping "sheets" sheets) (.block form.fields) =
          some (.entry (.repeated "sheets" count template validators)) ∧
        count ≠ 200 := by
  obtain ⟨-, hcompiled⟩ := warnings_match_arrays .standard ledger
  obtain ⟨forms, hforms, hwarned, hdefinitions⟩ := hcompiled _ rfl
  have hdistinct : (Schema.wrapping "sheets" sheets).Distinct :=
    .wrapping (.of_items rfl rfl rfl (.of_leaf rfl rfl rfl)) "sheets"
  obtain ⟨hlisted, -, -, form, hform, -, harrays⟩ :=
    hdefinitions "ledger" _ List.mem_cons_self hdistinct
  have hsheets : ⟨[.property "sheets"], "sheets", sheets⟩ ∈
      (Schema.wrapping "sheets" sheets).arrays :=
    (hlisted _ _ _).2 ⟨_, ⟨⟨rfl, _, rfl, trivial⟩, rfl, rfl⟩, rfl, rfl⟩
  obtain ⟨count, template, validators, hpart, hcount⟩ := harrays _ hsheets
  obtain ⟨hcut, -⟩ := hcount 200 rfl
  exact ⟨forms, hforms, hwarned, form, hform, count, template, validators, hpart, hcut.2 rfl⟩

end SchemaForms
