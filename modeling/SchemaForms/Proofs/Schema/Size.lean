/-
How much a schema holds. A schema is larger than every schema inside it, be that a branch, a
property or its items, so what holds of a schema when it holds of all schemas inside holds of
every schema (`inside_induction`).
-/
import SchemaForms.Schema.Basic

set_option autoImplicit false

namespace SchemaForms.Schema

mutual

/-- How many schemas a schema holds, itself included. -/
def size : Schema → Nat
  | ⟨_, properties, items, allOf⟩ =>
    sizeOfProperties properties + sizeOfItems items + sizeOfBranches allOf + 1

def sizeOfProperties : List (String × Schema) → Nat
  | [] => 0
  | (_, property) :: rest => size property + sizeOfProperties rest

def sizeOfItems : Option Schema → Nat
  | none => 0
  | some item => size item

def sizeOfBranches : List Schema → Nat
  | [] => 0
  | branch :: rest => size branch + sizeOfBranches rest

end

theorem size_eq (schema : Schema) :
    schema.size = sizeOfProperties schema.properties + sizeOfItems schema.items +
      sizeOfBranches schema.allOf + 1 := by
  obtain ⟨keywords, properties, items, allOf⟩ := schema
  rw [size]

theorem size_branch {schema branch : Schema} (h : branch ∈ schema.allOf) :
    branch.size < schema.size := by
  have hle : ∀ branches : List Schema, branch ∈ branches →
      branch.size ≤ sizeOfBranches branches := by
    intro branches hmem
    induction branches with
    | nil => exact absurd hmem List.not_mem_nil
    | cons first rest ih =>
      rw [sizeOfBranches]
      rcases List.mem_cons.1 hmem with rfl | hmem
      · exact Nat.le_add_right _ _
      · exact Nat.le_trans (ih hmem) (Nat.le_add_left _ _)
  have hbranches := hle schema.allOf h
  rw [size_eq schema]
  omega

theorem size_property {schema property : Schema} {key : String}
    (h : (key, property) ∈ schema.properties) : property.size < schema.size := by
  have hle : ∀ properties : List (String × Schema), (key, property) ∈ properties →
      property.size ≤ sizeOfProperties properties := by
    intro properties hmem
    induction properties with
    | nil => exact absurd hmem List.not_mem_nil
    | cons first rest ih =>
      rw [sizeOfProperties]
      rcases List.mem_cons.1 hmem with rfl | hmem
      · exact Nat.le_add_right _ _
      · exact Nat.le_trans (ih hmem) (Nat.le_add_left _ _)
  have hproperties := hle schema.properties h
  rw [size_eq schema]
  omega

theorem size_items {schema item : Schema} (h : schema.items = some item) :
    item.size < schema.size := by
  rw [size_eq schema, h, sizeOfItems]
  omega

/-- **Induction on what is inside a schema.** -/
theorem inside_induction {motive : Schema → Prop}
    (h : ∀ schema : Schema, (∀ branch ∈ schema.allOf, motive branch) →
      (∀ name property, (name, property) ∈ schema.properties → motive property) →
      (∀ item, schema.items = some item → motive item) → motive schema) (schema : Schema) :
    motive schema := by
  refine h schema (fun branch hbranch => ?_) (fun name property hproperty => ?_)
    (fun item hitem => ?_)
  · have hsize := size_branch hbranch
    exact inside_induction h branch
  · have hsize := size_property hproperty
    exact inside_induction h property
  · have hsize := size_items hitem
    exact inside_induction h item
termination_by schema.size

end SchemaForms.Schema
