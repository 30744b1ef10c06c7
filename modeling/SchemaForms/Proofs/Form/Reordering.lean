/-
The order of a schema in its form.

Two things in a schema are written in some order. Its properties are, and the form has their
fields in that order. The names that it requires are as well, with repeats if one likes, and
with names that no property has; of these a form shows nothing but which fields are required.
So a schema may be rearranged, at any depth: properties change places, and the required names
are listed anew, as long as a property is required when it was (`Rearranged`). Rearranged
schemas have the same fields, and these stand in another order only where properties do
(`Reordered`): the fields of a branch stay together and before those of the next, and whatever
is no list of fields is the same. Where no property changes places the forms are equal.

What carries this is that nothing is looked up by its place. Rules are shown the definition
around a field, which has been rearranged inside and out, and ask it two things: whether it
requires the field, and what the property of that name says about its own value
(`Rearranged.validators_eq`). And whether a schema becomes a group depends on its having
properties, not on which comes first.
-/
import SchemaForms.Proofs.Form.Composition
import SchemaForms.Proofs.Form.Nodes
import SchemaForms.Proofs.Schema.Distinct

set_option autoImplicit false

namespace SchemaForms

/-! ## Arrangements -/

/-- How the entries of two lists may stand to each other. -/
inductive Arrangement where
  /-- In any order. -/
  | free
  /-- In one and the same order. -/
  | fixed

namespace Arrangement

variable {α β : Type} {arrangement : Arrangement} {list other : List α}

/-- The lists have the same entries, in orders that the arrangement leaves. -/
def Allows : Arrangement → List α → List α → Prop
  | free, list, other => list.Perm other
  | fixed, list, other => list = other

theorem allows_refl (arrangement : Arrangement) (list : List α) :
    arrangement.Allows list list := by
  cases arrangement with
  | free => exact .refl list
  | fixed => exact rfl

theorem Allows.perm (h : arrangement.Allows list other) : list.Perm other := by
  cases arrangement with
  | free => exact h
  | fixed => exact .of_eq h

theorem Allows.map (f : α → β) (h : arrangement.Allows list other) :
    arrangement.Allows (list.map f) (other.map f) := by
  cases arrangement with
  | free => exact List.Perm.map f h
  | fixed => exact congrArg (List.map f) h

end Arrangement

namespace Schema

/-! ## Rearranged schemas -/

mutual

/-- The schemas differ, at any depth, in the order of properties and in what is listed as
required: the one as far as the arrangement allows, the other as far as no property of the same
schema is concerned. -/
inductive Rearranged (arrangement : Arrangement) : Schema → Schema → Prop where
  | intro {schema other : Schema} {properties : List (String × Schema)}
      (keywords : other.valueKeywords = schema.valueKeywords)
      (required : ∀ name ∈ Keyed.keys schema.properties,
        name ∈ other.required ↔ name ∈ schema.required)
      (inside : RearrangedProperties arrangement schema.properties properties)
      (order : arrangement.Allows properties other.properties)
      (items : RearrangedItems arrangement schema.items other.items)
      (branches : RearrangedBranches arrangement schema.allOf other.allOf) :
      Rearranged arrangement schema other

/-- The properties are rearranged, each under its name and in its place. -/
inductive RearrangedProperties (arrangement : Arrangement) :
    List (String × Schema) → List (String × Schema) → Prop where
  | nil : RearrangedProperties arrangement [] []
  | cons {name : String} {property other : Schema} {rest others : List (String × Schema)}
      (first : Rearranged arrangement property other)
      (behind : RearrangedProperties arrangement rest others) :
      RearrangedProperties arrangement ((name, property) :: rest) ((name, other) :: others)

inductive RearrangedItems (arrangement : Arrangement) : Option Schema → Option Schema → Prop where
  | none : RearrangedItems arrangement none none
  | some {item other : Schema} (inside : Rearranged arrangement item other) :
      RearrangedItems arrangement (some item) (some other)

/-- The branches are rearranged, each in its place. -/
inductive RearrangedBranches (arrangement : Arrangement) : List Schema → List Schema → Prop where
  | nil : RearrangedBranches arrangement [] []
  | cons {branch other : Schema} {rest others : List Schema}
      (first : Rearranged arrangement branch other)
      (behind : RearrangedBranches arrangement rest others) :
      RearrangedBranches arrangement (branch :: rest) (other :: others)

end

section

variable {arrangement : Arrangement} {schema other : Schema}

mutual

/-- To leave everything as it is counts as well. -/
theorem Rearranged.refl (arrangement : Arrangement) : ∀ schema : Schema,
    Rearranged arrangement schema schema
  | ⟨_, properties, items, allOf⟩ =>
    .intro rfl (fun _ _ => Iff.rfl) (RearrangedProperties.refl arrangement properties)
      (arrangement.allows_refl properties) (RearrangedItems.refl arrangement items)
      (RearrangedBranches.refl arrangement allOf)

theorem RearrangedProperties.refl (arrangement : Arrangement) :
    ∀ properties : List (String × Schema), RearrangedProperties arrangement properties properties
  | [] => .nil
  | (_, property) :: rest =>
    .cons (Rearranged.refl arrangement property) (RearrangedProperties.refl arrangement rest)

theorem RearrangedItems.refl (arrangement : Arrangement) : ∀ items : Option Schema,
    RearrangedItems arrangement items items
  | none => .none
  | some item => .some (Rearranged.refl arrangement item)

theorem RearrangedBranches.refl (arrangement : Arrangement) : ∀ branches : List Schema,
    RearrangedBranches arrangement branches branches
  | [] => .nil
  | branch :: rest =>
    .cons (Rearranged.refl arrangement branch) (RearrangedBranches.refl arrangement rest)

end

theorem RearrangedProperties.keys_eq : ∀ {properties others : List (String × Schema)},
    RearrangedProperties arrangement properties others →
      Keyed.keys others = Keyed.keys properties
  | _, _, .nil => rfl
  | _, _, @RearrangedProperties.cons _ name _ _ _ _ _ behind => congrArg (name :: ·) behind.keys_eq

theorem RearrangedProperties.exists_of_mem {name : String} {property : Schema} :
    ∀ {properties others : List (String × Schema)},
      RearrangedProperties arrangement properties others → (name, property) ∈ properties →
        ∃ other, (name, other) ∈ others ∧ Rearranged arrangement property other
  | _, _, .nil, hmem => absurd hmem List.not_mem_nil
  | _, _, .cons first behind, hmem => by
    rcases List.mem_cons.1 hmem with heq | hmem
    · obtain ⟨rfl, rfl⟩ := Prod.mk.inj heq
      exact ⟨_, List.mem_cons_self, first⟩
    · obtain ⟨other, hother, hinside⟩ := behind.exists_of_mem hmem
      exact ⟨other, List.mem_cons_of_mem _ hother, hinside⟩

theorem RearrangedBranches.isEmpty_eq {branches others : List Schema}
    (h : RearrangedBranches arrangement branches others) : others.isEmpty = branches.isEmpty := by
  cases h with
  | nil => rfl
  | cons => rfl

namespace Rearranged

theorem valueKeywords_eq (h : Rearranged arrangement schema other) :
    other.valueKeywords = schema.valueKeywords := by
  cases h with
  | intro keywords => exact keywords

theorem keys_perm (h : Rearranged arrangement schema other) :
    (Keyed.keys schema.properties).Perm (Keyed.keys other.properties) := by
  cases h with
  | intro _ _ inside order =>
    rw [← inside.keys_eq]
    exact order.perm.map Prod.fst

theorem isArray_eq (h : Rearranged arrangement schema other) : other.isArray = schema.isArray := by
  have htype : other.type = schema.type := (congrArg Keywords.type h.valueKeywords_eq :)
  rw [isArray, isArray, htype]

/-- Properties that change places are as many as before. -/
theorem isObject_eq (h : Rearranged arrangement schema other) :
    other.isObject = schema.isObject := by
  have htype : other.type = schema.type := (congrArg Keywords.type h.valueKeywords_eq :)
  have hproperties : other.properties.isEmpty = schema.properties.isEmpty := by
    have hkeys := h.keys_perm.isEmpty_eq
    rw [Keyed.keys, Keyed.keys, List.isEmpty_map, List.isEmpty_map] at hkeys
    exact hkeys.symm
  have hbranches : other.allOf.isEmpty = schema.allOf.isEmpty := by
    cases h with
    | intro _ _ _ _ _ branches => exact branches.isEmpty_eq
  rw [isObject, isObject, htype, hproperties, hbranches]

/-- What is found under the name of a property says the same about its own value. -/
theorem property?_eq (h : Rearranged arrangement schema other)
    (hdistinct : Keyed.Distinct schema.properties) {name : String}
    (hname : name ∈ Keyed.keys schema.properties) :
    (other.property? name).map valueKeywords = (schema.property? name).map valueKeywords := by
  have hother : Keyed.Distinct other.properties := h.keys_perm.nodup_iff.1 hdistinct
  obtain ⟨⟨name, property⟩, hmem, rfl⟩ := List.mem_map.1 hname
  cases h with
  | intro _ _ inside order =>
    -- The property has a counterpart in its place, and that has only changed places since.
    obtain ⟨found, hfound, hinside⟩ := inside.exists_of_mem hmem
    have hmem' := order.perm.mem_iff.1 hfound
    rw [property?, property?, hdistinct.get?_of_mem hmem, hother.get?_of_mem hmem',
      Option.map_some, Option.map_some, hinside.valueKeywords_eq]

/-- **A property gets the validators that it got.** -/
theorem validators_eq (h : Rearranged arrangement schema other)
    (hdistinct : Keyed.Distinct schema.properties) {name : String}
    (hname : name ∈ Keyed.keys schema.properties) :
    Registry.standard.validators name other = Registry.standard.validators name schema := by
  refine validators_standard_congr ?_ (h.property?_eq hdistinct hname)
  cases h with
  | intro _ required =>
    rw [isRequired, isRequired, List.contains_eq_mem, List.contains_eq_mem,
      decide_eq_decide]
    exact required name hname

end Rearranged

end

/-! ## Reordered fields -/

mutual

/-- The fields of a definition, with those of its properties in one order and in another, as far
as the arrangement allows, at any depth. -/
inductive Reordered (arrangement : Arrangement) : Schema → List Field → List Field → Prop where
  | intro {schema : Schema} {inherited inherited' own own' others : List Field}
      (branches : ReorderedBranches arrangement schema.allOf inherited inherited')
      (inside : ReorderedProperties arrangement schema.properties own others)
      (order : arrangement.Allows others own') :
      Reordered arrangement schema (inherited ++ own) (inherited' ++ own')

/-- The fields of branches, one branch after the other. -/
inductive ReorderedBranches (arrangement : Arrangement) :
    List Schema → List Field → List Field → Prop where
  | nil : ReorderedBranches arrangement [] [] []
  | cons {branch : Schema} {rest : List Schema} {fields fields' others others' : List Field}
      (first : Reordered arrangement branch fields fields')
      (behind : ReorderedBranches arrangement rest others others') :
      ReorderedBranches arrangement (branch :: rest) (fields ++ others) (fields' ++ others')

/-- One field for each property, each in its place. -/
inductive ReorderedProperties (arrangement : Arrangement) :
    List (String × Schema) → List Field → List Field → Prop where
  | nil : ReorderedProperties arrangement [] [] []
  | cons {name : String} {property : Schema} {rest : List (String × Schema)}
      {field field' : Field} {others others' : List Field}
      (first : ReorderedEntry arrangement property field field')
      (behind : ReorderedProperties arrangement rest others others') :
      ReorderedProperties arrangement ((name, property) :: rest) (field :: others)
        (field' :: others')

/-- The field of one property, or of the items of an array: reordered inside, and otherwise the
same. -/
inductive ReorderedEntry (arrangement : Arrangement) : Schema → Field → Field → Prop where
  | control (schema : Schema) (name : String) (initial : Option Json)
      (validators : List Validator) :
      ReorderedEntry arrangement schema (.control name initial validators)
        (.control name initial validators)
  | group {schema : Schema} {name : String} {children children' : List Field}
      (inside : Reordered arrangement schema children children') :
      ReorderedEntry arrangement schema (.group name children) (.group name children')
  | repeated {schema : Schema} {name : String} {count : Nat} {template template' : Field}
      {validators : List Validator}
      (inside : ReorderedTemplate arrangement schema.items template template') :
      ReorderedEntry arrangement schema (.repeated name count template validators)
        (.repeated name count template' validators)

inductive ReorderedTemplate (arrangement : Arrangement) :
    Option Schema → Field → Field → Prop where
  | none (template : Field) : ReorderedTemplate arrangement none template template
  | some {item : Schema} {template template' : Field}
      (inside : ReorderedEntry arrangement item template template') :
      ReorderedTemplate arrangement (some item) template template'

end

/-! ### Where nothing may change places -/

mutual

theorem Reordered.eq_of_fixed : ∀ {schema : Schema} {fields fields' : List Field},
    Reordered .fixed schema fields fields' → fields' = fields
  | _, _, _, .intro branches inside order => by
    have horder : _ = _ := order
    rw [branches.eq_of_fixed, ← horder, inside.eq_of_fixed]

theorem ReorderedBranches.eq_of_fixed : ∀ {branches : List Schema} {fields fields' : List Field},
    ReorderedBranches .fixed branches fields fields' → fields' = fields
  | _, _, _, .nil => rfl
  | _, _, _, .cons first behind => by rw [first.eq_of_fixed, behind.eq_of_fixed]

theorem ReorderedProperties.eq_of_fixed : ∀ {properties : List (String × Schema)}
    {fields fields' : List Field}, ReorderedProperties .fixed properties fields fields' →
      fields' = fields
  | _, _, _, .nil => rfl
  | _, _, _, .cons first behind => by rw [first.eq_of_fixed, behind.eq_of_fixed]

theorem ReorderedEntry.eq_of_fixed : ∀ {schema : Schema} {field field' : Field},
    ReorderedEntry .fixed schema field field' → field' = field
  | _, _, _, .control _ _ _ _ => rfl
  | _, _, _, .group inside => by rw [inside.eq_of_fixed]
  | _, _, _, .repeated inside => by rw [inside.eq_of_fixed]

theorem ReorderedTemplate.eq_of_fixed : ∀ {items : Option Schema} {template template' : Field},
    ReorderedTemplate .fixed items template template' → template' = template
  | _, _, _, .none _ => rfl
  | _, _, _, .some inside => inside.eq_of_fixed

end

/-! ## Rearranged schemas have reordered fields -/

/-- What the schemas compile to is reordered, wherever they are taken up. -/
structure Reorders (arrangement : Arrangement) (schema other : Schema) : Prop where
  fields : ∀ name, Reordered arrangement schema (schema.fields .standard name).value
    (other.fields .standard name).value
  entry : ∀ (owner owner' : Schema) (name : String),
    Registry.standard.validators name owner' = Registry.standard.validators name owner →
      ReorderedEntry arrangement schema (entryField .standard owner name schema)
        (entryField .standard owner' name other)

section

variable {arrangement : Arrangement}

/-- A definition made for the items of an array shows rules what they say about themselves. -/
theorem Rearranged.validators_wrapping {item other : Schema} (h : Rearranged arrangement item other)
    (name : String) :
    Registry.standard.validators name (wrapping name other) =
      Registry.standard.validators name (wrapping name item) := by
  refine validators_standard_congr rfl ?_
  rw [property?_wrapping, property?_wrapping, Option.map_some, Option.map_some, h.valueKeywords_eq]

mutual

/-- **Rearranged schemas have reordered fields.** The induction is on how they are rearranged,
for fields of a definition and for a single field at once. -/
theorem Rearranged.reorders : ∀ {schema other : Schema}, Rearranged arrangement schema other →
    schema.Distinct → Reorders arrangement schema other
  | schema, other, h@(.intro keywords required inside order items branches), hdistinct => by
    have hfields : ∀ name, Reordered arrangement schema (schema.fields .standard name).value
        (other.fields .standard name).value := by
      intro name
      rw [fields_value, fields_value]
      -- Branches stay. Properties are reordered inside first, and then they change places.
      refine .intro (branches.reordered (fun _ => hdistinct.branch) name)
        (inside.reordered (fun _ _ => hdistinct.property) ?_) (order.map _)
      intro key hkey
      exact h.validators_eq hdistinct.properties hkey
    refine ⟨hfields, ?_⟩
    -- The definitions around the field differ, but not in what they say about it.
    intro owner owner' name hvalidators
    rw [entryField, entryField, h.isObject_eq]
    split
    · exact .group (hfields name)
    · by_cases harray : schema.isArray = true
      · have hminItems : other.minItems = schema.minItems :=
          (congrArg Keywords.minItems keywords :)
        rw [valueField_of_isArray .standard owner name harray,
          valueField_of_isArray .standard owner' name (h.isArray_eq.trans harray), hminItems,
          hvalidators]
        exact .repeated (items.reordered (fun _ => hdistinct.items) name)
      · rw [Bool.not_eq_true] at harray
        have hinitial : other.initial = schema.initial := (congrArg Keywords.initial keywords :)
        rw [valueField_of_not_isArray .standard owner name harray,
          valueField_of_not_isArray .standard owner' name (h.isArray_eq.trans harray), hinitial,
          hvalidators]
        exact .control schema name schema.initial _

theorem RearrangedProperties.reordered {owner owner' : Schema} :
    ∀ {properties others : List (String × Schema)},
      RearrangedProperties arrangement properties others →
      (∀ name property, (name, property) ∈ properties → property.Distinct) →
      (∀ name ∈ Keyed.keys properties,
        Registry.standard.validators name owner' = Registry.standard.validators name owner) →
      ReorderedProperties arrangement properties
        (properties.map fun property => entryField .standard owner property.1 property.2)
        (others.map fun property => entryField .standard owner' property.1 property.2)
  | _, _, .nil, _, _ => .nil
  | _, _, @RearrangedProperties.cons _ name property _ _ _ first behind, hdistinct,
      hvalidators => by
    have hfirst := first.reorders (hdistinct name property List.mem_cons_self)
    refine .cons (hfirst.entry owner owner' name (hvalidators name List.mem_cons_self)) ?_
    refine behind.reordered (fun name property hmem => hdistinct name property ?_) ?_
    · exact List.mem_cons_of_mem _ hmem
    · intro name hmem
      exact hvalidators name (List.mem_cons_of_mem _ hmem)

theorem RearrangedItems.reordered : ∀ {items others : Option Schema},
    RearrangedItems arrangement items others → (∀ item, items = some item → item.Distinct) →
      ∀ name, ReorderedTemplate arrangement items (templateField .standard name items).value
        (templateField .standard name others).value
  | _, _, .none, _, name => .none _
  | _, _, @RearrangedItems.some _ item other inside, hdistinct, name => by
    rw [templateField_some, templateField_some]
    refine .some ((inside.reorders (hdistinct item rfl)).entry _ _ name ?_)
    exact inside.validators_wrapping name

theorem RearrangedBranches.reordered : ∀ {branches others : List Schema},
    RearrangedBranches arrangement branches others →
      (∀ branch ∈ branches, branch.Distinct) → ∀ name,
        ReorderedBranches arrangement branches (branchFields .standard name branches).value
          (branchFields .standard name others).value
  | _, _, .nil, _, name => by
    rw [branchFields]
    exact .nil
  | _, _, .cons first behind, hdistinct, name => by
    obtain ⟨hfirst, hbehind⟩ := List.forall_mem_cons.1 hdistinct
    simp only [branchFields, Logged.value_bind, Logged.value_pure]
    exact .cons ((first.reorders hfirst).fields name) (behind.reordered hbehind name)

end

end

end Schema

open Schema

/-! ## The statement -/

/-- **The order in a schema is the order in its form, and nothing else.** If properties change
places, at any depth, and the required names are listed otherwise without a property being
required that was not or the other way round, then the fields that come from the properties of
one schema change places; a field keeps its kind, name, default, number of copies and validators,
and the fields of branches stay where they are. If no property changes places, the fields are
equal. Names of properties are distinct at every depth in schemas that are decoded. -/
theorem fields_of_rearranged {schema : Schema} (hdistinct : schema.Distinct) (other : Schema)
    (name : String) :
    (Rearranged .free schema other →
      Reordered .free schema (schema.fields .standard name).value
        (other.fields .standard name).value) ∧
    (Rearranged .fixed schema other →
      (other.fields .standard name).value = (schema.fields .standard name).value) := by
  constructor
  · intro h
    exact (h.reorders hdistinct).fields name
  · intro h
    exact ((h.reorders hdistinct).fields name).eq_of_fixed

/-- Where somebody lives, and a customer that lives somewhere. -/
def residence : Schema where
  required := ["city"]
  properties := [("street", {}), ("city", {})]

def customer : Schema where
  required := ["name", "address"]
  properties := [("name", { minLength := some 1 }), ("address", residence)]

/-- The same, with the properties and the required names in another order. -/
def residenceOtherwise : Schema where
  required := ["city", "zip"]
  properties := [("city", {}), ("street", {})]

def customerOtherwise : Schema where
  required := ["age", "address", "name", "address"]
  properties := [("address", residenceOtherwise), ("name", { minLength := some 1 })]

/-- The customer, with only the required names in another order. -/
def customerRelisted : Schema :=
  { customer with required := ["age", "address", "name", "address"] }

theorem distinct_residence : residence.Distinct := by
  refine .of_inside (by simp [Keyed.Distinct, Keyed.keys, residence]) ?_ nofun nofun
  intro name property hmem
  simp only [residence, List.mem_cons, Prod.mk.injEq, List.not_mem_nil, or_false] at hmem
  rcases hmem with ⟨-, rfl⟩ | ⟨-, rfl⟩
  · exact .of_leaf rfl rfl rfl
  · exact .of_leaf rfl rfl rfl

theorem distinct_customer : customer.Distinct := by
  refine .of_inside (by simp [Keyed.Distinct, Keyed.keys, customer]) ?_ nofun nofun
  intro name property hmem
  simp only [customer, List.mem_cons, Prod.mk.injEq, List.not_mem_nil, or_false] at hmem
  rcases hmem with ⟨-, rfl⟩ | ⟨-, rfl⟩
  · exact .of_leaf rfl rfl rfl
  · exact distinct_residence

theorem fields_of_rearranged_customer :
    Reordered .free customer (customer.fields .standard "customer").value
      (customerOtherwise.fields .standard "customer").value ∧
    (customerRelisted.fields .standard "customer").value =
      (customer.fields .standard "customer").value := by
  have hresidence : Rearranged .free residence residenceOtherwise := by
    refine .intro rfl ?_ (.refl .free _) (.swap _ _ []) .none .nil
    simp [Keyed.keys, residence, residenceOtherwise]
  obtain ⟨hfree, -⟩ := fields_of_rearranged distinct_customer customerOtherwise "customer"
  obtain ⟨-, hfixed⟩ := fields_of_rearranged distinct_customer customerRelisted "customer"
  refine ⟨hfree ?_, hfixed ?_⟩
  · refine .intro rfl ?_ (.cons (.refl .free _) (.cons hresidence .nil)) (.swap _ _ []) .none .nil
    simp [Keyed.keys, customer, customerOtherwise]
  · refine .intro rfl ?_ (.refl .fixed _) rfl .none .nil
    simp [Keyed.keys, customer, customerRelisted]

end SchemaForms
