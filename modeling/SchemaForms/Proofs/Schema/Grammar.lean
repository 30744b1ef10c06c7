/-
What decoding accepts. A place in a value asks for a kind: a record, schemas by name, schemas
in a list, or a single value; and some places may also hold null. Which places there are is
decided by the kinds alone (`RecordKind.fields`), so the places of a value can be listed
without decoding it: depth first in document order, what is inside a value before the value
itself (`walk`).

Decoding goes through the same places in the same order and stops at the first one whose value
does not fit. That is said once, as what a decoder owes a place (`Reads`): it has the error of
the first bad place, or none, and it does not see the members that no place is for. Decoders of
single values, of optional values and of records owe it for their parts and pay it as a whole,
so it holds of the decoder of documents.
-/
import SchemaForms.Proofs.Schema.Field

set_option autoImplicit false

namespace SchemaForms

namespace Grammar

/-! ## Kinds of places -/

/-- The records of a document. -/
inductive RecordKind where
  | document
  | components
  | info
  | schema

/-- What a place asks for. -/
inductive Kind where
  | record (kind : RecordKind)
  /-- Schemas by name. -/
  | named
  /-- Schemas in a list. -/
  | list
  | text
  | count
  | number
  /-- The name of a type, or a list of such names. -/
  | type
  | anything

/-- What a place asks for, and whether null will do instead. -/
structure Slot where
  kind : Kind
  optional : Bool

namespace Slot

/-- A place that must hold the kind. -/
def must (kind : Kind) : Slot :=
  { kind, optional := false }

/-- A place that may hold null. -/
def may (kind : Kind) : Slot :=
  { kind, optional := true }

@[simp] theorem kind_must (kind : Kind) : (must kind).kind = kind := rfl

end Slot

namespace RecordKind

def wanted : RecordKind → Wanted
  | document => .document
  | components => .components
  | info => .info
  | schema => .schema

/-- The fields of a record in declared order. -/
def fields : RecordKind → List (String × Slot)
  | document =>
    [("definitions", .may .named), ("components", .may (.record components)),
      ("info", .may (.record info))]
  | components => [("schemas", .may .named)]
  | info => [("title", .may .text)]
  | schema =>
    [("type", .may .type), ("format", .may .text), ("pattern", .may .text),
      ("minLength", .may .count), ("maxLength", .may .count), ("minimum", .may .number),
      ("maximum", .may .number), ("minItems", .may .count), ("maxItems", .may .count),
      ("default", .must .anything), ("required", .must .anything),
      ("properties", .must .named), ("items", .may (.record schema)), ("allOf", .must .list)]

end RecordKind

namespace Kind

/-- The place that a member of an object of the kind stands in, if any. -/
def member? (key : String) : Kind → Option Slot
  | record kind => kind.fields.lookup key
  | named => some (.must (.record .schema))
  | _ => none

/-- The place that a value of an array of the kind stands in, if any. -/
def item? (index : Nat) : Kind → Option Slot
  | record kind => (kind.fields[index]?).map Prod.snd
  | list => some (.must (.record .schema))
  | _ => none

/-- The value is of the kind, whatever is inside it. -/
inductive Admits : Kind → Json → Prop where
  | members {kind : RecordKind} (members : List (String × Json)) :
      Admits (.record kind) (.object members)
  | values {kind : RecordKind} (values : List Json) (h : values.length ≤ kind.fields.length) :
      Admits (.record kind) (.array values)
  | named (members : List (String × Json)) : Admits .named (.object members)
  | list (values : List Json) : Admits .list (.array values)
  | text (s : String) : Admits .text (.string s)
  | count (n : Int) (fits : _) (h : 0 ≤ n) : Admits .count (.number (.integer n fits))
  | number (n : Number) : Admits .number (.number n)
  | typeName (name : String) : Admits .type (.string name)
  | typeNames (names : List String) : Admits .type (.array (names.map .string))
  | anything (value : Json) : Admits .anything value

/-- What is wrong with a value that is not of the kind. -/
def fault? : Kind → Json → Option Problem
  | record _, .object _ => none
  | record kind, .array values =>
    if values.length ≤ kind.fields.length then none else some (.tooMany values.length)
  | record kind, value => some (.wrongKind value kind.wanted)
  | named, .object _ => none
  | named, value => some (.wrongKind value .map)
  | list, .array _ => none
  | list, value => some (.wrongKind value .sequence)
  | text, .string _ => none
  | text, value => some (.wrongKind value .text)
  | count, .number (.integer n fits) =>
    if 0 ≤ n then none else some (.negative (.number (.integer n fits)) .count)
  | count, value => some (.wrongKind value .count)
  | number, .number _ => none
  | number, value => some (.wrongKind value .number)
  | type, .string _ => none
  | type, .array items => if (Decode.allTexts? items).isSome then none else some .noType
  | type, _ => some .noType
  | anything, _ => none

end Kind

namespace Slot

/-- The value may stand in the place, whatever is inside it. -/
def Admits (slot : Slot) (value : Json) : Prop :=
  slot.optional = true ∧ value = .null ∨ slot.kind.Admits value

/-- What is wrong with a value that may not. -/
def fault? (slot : Slot) : Json → Option Problem
  | .null => if slot.optional then none else slot.kind.fault? .null
  | value => slot.kind.fault? value

end Slot

/-! ## The places of a value -/

/-- A place: the way to it, what it asks for, and what stands there. -/
structure Place where
  path : List PathStep
  slot : Slot
  value : Json

namespace Place

/-- The value may stand there. -/
def Fits (place : Place) : Prop :=
  place.slot.Admits place.value

/-- The place as seen from one step further out. -/
def within (step : PathStep) (place : Place) : Place :=
  { place with path := step :: place.path }

/-- The error to report at the place, if any. -/
def error? (place : Place) : Option DecodeError :=
  (place.slot.fault? place.value).map fun problem => { path := place.path, problem }

end Place

mutual

/-- The places of a value that stands in a place of its own, depth first in document order. A
value comes behind what is inside it. -/
def walk (slot : Slot) : Json → List Place
  | .object members =>
    walkMembers slot.kind members ++ [{ path := [], slot, value := .object members }]
  | .array values =>
    walkValues slot.kind 0 values ++ [{ path := [], slot, value := .array values }]
  | value => [{ path := [], slot, value }]

/-- The places in the members of an object; those that no place is for are passed over. -/
def walkMembers (kind : Kind) : List (String × Json) → List Place
  | [] => []
  | (key, value) :: rest =>
    match kind.member? key with
    | some slot => (walk slot value).map (Place.within (.key key)) ++ walkMembers kind rest
    | none => walkMembers kind rest

/-- The places in the values of an array, from the one at `index` on. -/
def walkValues (kind : Kind) (index : Nat) : List Json → List Place
  | [] => []
  | value :: rest =>
    match kind.item? index with
    | some slot =>
      (walk slot value).map (Place.within (.index index)) ++ walkValues kind (index + 1) rest
    | none => walkValues kind (index + 1) rest

end

mutual

/-- The value without the members of records that no place is for. -/
def prune : Kind → Json → Json
  | .record kind, .object members => .object (pruneMembers (.record kind) members)
  | .named, .object members => .object (pruneMembers .named members)
  | .record kind, .array values => .array (pruneValues (.record kind) 0 values)
  | .list, .array values => .array (pruneValues .list 0 values)
  | _, value => value

def pruneMembers (kind : Kind) : List (String × Json) → List (String × Json)
  | [] => []
  | (key, value) :: rest =>
    match kind.member? key with
    | some slot => (key, prune slot.kind value) :: pruneMembers kind rest
    | none => pruneMembers kind rest

def pruneValues (kind : Kind) (index : Nat) : List Json → List Json
  | [] => []
  | value :: rest =>
    match kind.item? index with
    | some slot => prune slot.kind value :: pruneValues kind (index + 1) rest
    | none => value :: pruneValues kind (index + 1) rest

end

/-! ## Paths lead to places -/

/-- The value one step further in. -/
def step? : PathStep → Json → Option Json
  | .key key, .object members => Keyed.get? members key
  | .index index, .array values => values[index]?
  | _, _ => none

/-- The value that a path leads to. -/
def follow? : List PathStep → Json → Option Json
  | [], value => some value
  | step :: rest, value => (step? step value).bind (follow? rest)

theorem mem_walkMembers {kind : Kind} {members : List (String × Json)} {place : Place}
    (h : place ∈ walkMembers kind members) :
    ∃ key value slot inner, (key, value) ∈ members ∧ inner ∈ walk slot value ∧
      place = inner.within (.key key) := by
  induction members with
  | nil => cases h
  | cons member rest ih =>
    obtain ⟨key, value⟩ := member
    have hplace : (∃ slot, place ∈ (walk slot value).map (Place.within (.key key))) ∨
        place ∈ walkMembers kind rest := by
      rw [walkMembers] at h
      split at h
      · exact (List.mem_append.1 h).imp_left fun hfirst => ⟨_, hfirst⟩
      · exact .inr h
    rcases hplace with ⟨slot, hfirst⟩ | hrest
    · obtain ⟨inner, hinner, rfl⟩ := List.mem_map.1 hfirst
      exact ⟨key, value, slot, inner, List.mem_cons_self, hinner, rfl⟩
    · obtain ⟨key', value', slot, inner, hmem, hinner, hplace⟩ := ih hrest
      exact ⟨key', value', slot, inner, List.mem_cons_of_mem _ hmem, hinner, hplace⟩

theorem mem_walkValues {kind : Kind} {index : Nat} {values : List Json} {place : Place}
    (h : place ∈ walkValues kind index values) :
    ∃ offset value slot inner, values[offset]? = some value ∧ inner ∈ walk slot value ∧
      place = inner.within (.index (index + offset)) := by
  induction values generalizing index with
  | nil => cases h
  | cons value rest ih =>
    have hplace : (∃ slot, place ∈ (walk slot value).map (Place.within (.index index))) ∨
        place ∈ walkValues kind (index + 1) rest := by
      rw [walkValues] at h
      split at h
      · exact (List.mem_append.1 h).imp_left fun hfirst => ⟨_, hfirst⟩
      · exact .inr h
    rcases hplace with ⟨slot, hfirst⟩ | hrest
    · obtain ⟨inner, hinner, rfl⟩ := List.mem_map.1 hfirst
      exact ⟨0, value, slot, inner, rfl, hinner, rfl⟩
    · obtain ⟨offset, value', slot, inner, hvalue, hinner, hplace⟩ := ih hrest
      rw [show index + 1 + offset = index + (offset + 1) by omega] at hplace
      exact ⟨offset + 1, value', slot, inner, hvalue, hinner, hplace⟩

theorem sizeOf_lt_object {members : List (String × Json)} {entry : String × Json}
    (h : entry ∈ members) : sizeOf entry.2 < sizeOf (Json.object members) := by
  have hentry := List.sizeOf_lt_of_mem h
  obtain ⟨key, value⟩ := entry
  simp only [Prod.mk.sizeOf_spec] at hentry
  simp only [Json.object.sizeOf_spec]
  omega

theorem sizeOf_lt_array {values : List Json} {value : Json} (h : value ∈ values) :
    sizeOf value < sizeOf (Json.array values) := by
  have hvalue := List.sizeOf_lt_of_mem h
  simp only [Json.array.sizeOf_spec]
  omega

/-- **The path of a place leads to its value.** -/
theorem follow?_of_mem_walk {slot : Slot} {value : Json} {place : Place}
    (hkeyed : value.WellKeyed) (h : place ∈ walk slot value) :
    follow? place.path value = some place.value := by
  cases value with
  | object members =>
    rw [walk, List.mem_append, List.mem_singleton] at h
    rcases h with h | rfl
    · obtain ⟨key, value, slot, inner, hmem, hinner, rfl⟩ := mem_walkMembers h
      have hlt : sizeOf value < sizeOf (Json.object members) := sizeOf_lt_object hmem
      rw [Json.WellKeyed] at hkeyed
      have hget : Keyed.get? members key = some value := hkeyed.1.get?_of_mem hmem
      have hinside := follow?_of_mem_walk (hkeyed.2.get? hget) hinner
      rw [Place.within, follow?, step?, hget]
      exact hinside
    · rfl
  | array values =>
    rw [walk, List.mem_append, List.mem_singleton] at h
    rcases h with h | rfl
    · obtain ⟨offset, value, slot, inner, hget, hinner, rfl⟩ := mem_walkValues h
      have hmem : value ∈ values := List.mem_of_getElem? hget
      have hlt : sizeOf value < sizeOf (Json.array values) := sizeOf_lt_array hmem
      rw [Json.WellKeyed, Json.wellKeyedItems_iff] at hkeyed
      have hinside := follow?_of_mem_walk (hkeyed value hmem) hinner
      rw [Place.within, follow?, step?, Nat.zero_add, hget]
      exact hinside
    · rfl
  | _ =>
    obtain rfl := List.mem_singleton.1 h
    rfl
termination_by sizeOf value

/-! ## Admitted values have no fault -/

theorem allTexts?_eq_some_iff {items : List Json} {names : List String} :
    Decode.allTexts? items = some names ↔ items = names.map .string := by
  induction items generalizing names with
  | nil => simp [Decode.allTexts?, eq_comm]
  | cons item rest ih =>
    cases item with
    | string s =>
      simp only [Decode.allTexts?, Option.map_eq_some_iff, ih]
      constructor
      · rintro ⟨others, rfl, rfl⟩
        rfl
      · intro h
        cases names with
        | nil => cases h
        | cons name names =>
          obtain ⟨hname, rfl⟩ := List.cons.inj h
          obtain rfl := Json.string.inj hname
          exact ⟨names, rfl, rfl⟩
    | _ =>
      simp only [Decode.allTexts?, reduceCtorEq, false_iff]
      intro h
      cases names <;> cases h

theorem Kind.Admits.fault?_eq_none {kind : Kind} {value : Json} (h : kind.Admits value) :
    kind.fault? value = none := by
  cases h with
  | values values h => exact if_pos h
  | count n fits h => exact if_pos h
  | typeNames names =>
    have hall : Decode.allTexts? (names.map .string) = some names := allTexts?_eq_some_iff.2 rfl
    rw [fault?, hall]
    rfl
  | _ => rfl

theorem Kind.admits_of_fault?_eq_none {kind : Kind} {value : Json}
    (h : kind.fault? value = none) : kind.Admits value := by
  -- One case for each line that tells faults; the lines that always name one are out.
  unfold fault? at h
  split at h
  · exact .members _
  · split at h
    · rename_i hle
      exact .values _ hle
    · cases h
  · cases h
  · exact .named _
  · cases h
  · exact .list _
  · cases h
  · exact .text _
  · cases h
  · split at h
    · rename_i hn
      exact .count _ _ hn
    · cases h
  · cases h
  · exact .number _
  · cases h
  · exact .typeName _
  · split at h
    · rename_i hsome
      obtain ⟨names, hnames⟩ := Option.isSome_iff_exists.1 hsome
      rw [allTexts?_eq_some_iff.1 hnames]
      exact .typeNames names
    · cases h
  · cases h
  · exact .anything _

/-- **A place is reported exactly when its value does not fit.** -/
theorem Place.error?_eq_none_iff {place : Place} : place.error? = none ↔ place.Fits := by
  rw [error?, Option.map_eq_none_iff, Fits, Slot.Admits]
  cases hvalue : place.value with
  | null =>
    rw [Slot.fault?]
    cases place.slot.optional with
    | true => simp
    | false =>
      simp only [Bool.false_eq_true, if_false, false_and, false_or]
      exact ⟨Kind.admits_of_fault?_eq_none, Kind.Admits.fault?_eq_none⟩
  | _ =>
    rw [Slot.fault?]
    · simp only [reduceCtorEq, and_false, false_or]
      exact ⟨Kind.admits_of_fault?_eq_none, Kind.Admits.fault?_eq_none⟩
    · simp

/-! ## What a decoder owes a place -/

/-- The error of a decoding that fails. -/
def failure? {α : Type} : Except DecodeError α → Option DecodeError
  | .ok _ => none
  | .error e => some e

/-- The error of the first place that has one. -/
def firstError (places : List Place) : Option DecodeError :=
  places.findSome? Place.error?

/-- A decoder does with a value what the grammar says of a place: it fails with the error of
the first place that has one, and it does not see what no place is for. -/
structure Reads {α : Type} (slot : Slot) (decode : Json → Except DecodeError α)
    (value : Json) : Prop where
  failure : failure? (decode value) = firstError (walk slot value)
  pruned : decode (prune slot.kind value) = decode value

section

variable {α β : Type}

/-- The error as seen from one step further out. -/
def outward (step : PathStep) (e : DecodeError) : DecodeError :=
  { e with path := step :: e.path }

theorem firstError_append (first rest : List Place) :
    firstError (first ++ rest) = (firstError first).or (firstError rest) :=
  List.findSome?_append

theorem firstError_within (step : PathStep) (places : List Place) :
    firstError (places.map (Place.within step)) = (firstError places).map (outward step) := by
  rw [firstError, firstError, List.findSome?_map, List.map_findSome?]
  refine congrArg (List.findSome? · places) (funext fun place => ?_)
  simp only [Function.comp_apply, Place.error?, Place.within, Option.map_map]
  rfl

theorem firstError_singleton (place : Place) : firstError [place] = place.error? := by
  rw [firstError, List.findSome?_cons]
  cases place.error? <;> rfl

/-- Where nothing is inside a value, its own place is the only one. -/
theorem Reads.of_bare {slot : Slot} {decode : Json → Except DecodeError α} {value : Json}
    (hwalk : walk slot value = [{ path := [], slot, value }])
    (hfailure : failure? (decode value) = (slot.fault? value).map DecodeError.here)
    (hpruned : prune slot.kind value = value) : Reads slot decode value where
  failure := by
    rw [hwalk, firstError_singleton, hfailure]
    rfl
  pruned := by rw [hpruned]

/-- Where something is inside a value that is itself right, what is inside decides. -/
theorem Reads.of_inside {slot : Slot} {decode : Json → Except DecodeError α} {value : Json}
    {places : List Place} (hwalk : walk slot value = places ++ [{ path := [], slot, value }])
    (hfault : slot.fault? value = none) (hfailure : failure? (decode value) = firstError places)
    (hpruned : decode (prune slot.kind value) = decode value) : Reads slot decode value where
  failure := by
    rw [hwalk, firstError_append, firstError_singleton, Place.error?, hfault, hfailure]
    exact Option.or_none.symm
  pruned := hpruned

/-- A function of what is decoded changes nothing. -/
theorem Reads.map {slot : Slot} {decode : Json → Except DecodeError α} {value : Json}
    (h : Reads slot decode value) (f : α → β) :
    Reads slot (fun value => do return f (← decode value)) value where
  failure := by
    rw [← h.failure]
    cases decode value <;> rfl
  pruned := by simp only [h.pruned]

/-! ### Optional values -/

theorem optional_of_ne_null {decode : Json → Except DecodeError α} {value : Json}
    (h : value ≠ .null) :
    Decode.optional decode value = do return some (← decode value) := by
  cases value with
  | null => exact (h rfl).elim
  | _ =>
    simp only [Decode.optional]
    split
    · rename_i a ha
      rw [ha]
      rfl
    · rename_i e he
      rw [he]
      rfl

theorem prune_ne_null {kind : Kind} {value : Json} (h : value ≠ .null) :
    prune kind value ≠ .null := by
  rw [prune.eq_def]
  split
  · exact nofun
  · exact nofun
  · exact nofun
  · exact nofun
  · exact h

/-- That null would do makes no difference to any other value. -/
theorem firstError_walk_may {kind : Kind} {value : Json} (h : value ≠ .null) :
    firstError (walk (.may kind) value) = firstError (walk (.must kind) value) := by
  cases value with
  | null => exact (h rfl).elim
  | object members =>
    simp only [walk, firstError_append, firstError_singleton]
    rfl
  | array values =>
    simp only [walk, firstError_append, firstError_singleton]
    rfl
  | _ => rfl

theorem Reads.optional {kind : Kind} {decode : Json → Except DecodeError α} {value : Json}
    (h : Reads (.must kind) decode value) : Reads (.may kind) (Decode.optional decode) value := by
  by_cases hnull : value = .null
  · subst hnull
    exact Reads.of_bare rfl rfl (by cases kind <;> rfl)
  · have hmap := h.map some
    constructor
    · rw [optional_of_ne_null hnull, firstError_walk_may hnull]
      exact hmap.failure
    · rw [optional_of_ne_null hnull, optional_of_ne_null (prune_ne_null hnull)]
      exact hmap.pruned

/-! ### Single values -/

/-- Nothing is inside a value of the kind. -/
def Kind.single : Kind → Bool
  | record _ => false
  | named => false
  | list => false
  | _ => true

theorem walkMembers_eq_nil {kind : Kind} (h : ∀ key, kind.member? key = none)
    (members : List (String × Json)) : walkMembers kind members = [] := by
  induction members with
  | nil => rfl
  | cons member rest ih =>
    obtain ⟨key, value⟩ := member
    rw [walkMembers, h key]
    exact ih

theorem walkValues_eq_nil {kind : Kind} {index : Nat}
    (h : ∀ later, index ≤ later → kind.item? later = none) (values : List Json) :
    walkValues kind index values = [] := by
  induction values generalizing index with
  | nil => rfl
  | cons value rest ih =>
    rw [walkValues, h index (Nat.le_refl _)]
    exact ih fun later hlater => h later (by omega)

theorem walk_of_single {kind : Kind} (h : kind.single = true) (value : Json) :
    walk (.must kind) value = [{ path := [], slot := .must kind, value }] := by
  have hmember : ∀ key, kind.member? key = none := by
    intro key
    cases kind <;> first | rfl | cases h
  have hitem : ∀ later, 0 ≤ later → kind.item? later = none := by
    intro later _
    cases kind <;> first | rfl | cases h
  cases value with
  | object members =>
    rw [walk, Slot.kind_must, walkMembers_eq_nil hmember]
    rfl
  | array values =>
    rw [walk, Slot.kind_must, walkValues_eq_nil hitem]
    rfl
  | _ => rfl

theorem prune_of_single {kind : Kind} (h : kind.single = true) (value : Json) :
    prune kind value = value := by
  rw [prune.eq_def]
  split
  · cases h
  · cases h
  · cases h
  · cases h
  · rfl

theorem Reads.of_single {kind : Kind} (hkind : kind.single = true)
    {decode : Json → Except DecodeError α} {value : Json}
    (h : failure? (decode value) = (kind.fault? value).map DecodeError.here) :
    Reads (.must kind) decode value where
  failure := by
    rw [walk_of_single hkind, firstError_singleton, h]
    cases value <;> rfl
  pruned := by rw [Slot.kind_must, prune_of_single hkind]

theorem reads_text (value : Json) : Reads (.must .text) Decode.text value := by
  refine Reads.of_single rfl ?_
  cases value <;> rfl

theorem reads_number (value : Json) : Reads (.must .number) Decode.number value := by
  refine Reads.of_single rfl ?_
  cases value <;> rfl

theorem reads_count (value : Json) : Reads (.must .count) Decode.count value := by
  refine Reads.of_single rfl ?_
  cases value with
  | number n =>
    cases n with
    | integer n fits =>
      simp only [Decode.count, Kind.fault?]
      split <;> rfl
    | double x => rfl
  | _ => rfl

theorem reads_type (value : Json) : Reads (.must .type) Decode.typeKeyword value := by
  refine Reads.of_single rfl ?_
  cases value with
  | array items =>
    simp only [Decode.typeKeyword, Kind.fault?]
    cases Decode.allTexts? items <;> rfl
  | _ => rfl

/-- What accepts any value is never wrong. -/
theorem reads_anything (decode : Json → α) (value : Json) :
    Reads (.must .anything) (fun value => .ok (decode value)) value :=
  Reads.of_single rfl rfl

/-! ### Records -/

variable {record : Decode.Record α} {kind : RecordKind}

/-- The fields of the record do with a value what the grammar says of their places. -/
def FieldsRead (record : Decode.Record α) (kind : RecordKind) (value : Json) : Prop :=
  List.Forall₂ (fun field entry => field.1 = entry.1 ∧
    ∀ sofar, Reads entry.2 (field.2 sofar) value) record.fields kind.fields

/-- A key is that of a field and of its place, or of neither. -/
theorem FieldsRead.member? {value : Json} (h : FieldsRead record kind value) (key : String) :
    record.fields.lookup key = none ∧ (Kind.record kind).member? key = none ∨
      ∃ write slot, record.fields.lookup key = some write ∧
        (Kind.record kind).member? key = some slot ∧ ∀ sofar, Reads slot (write sofar) value :=
  Keyed.get?_of_forall₂
    (fun (write : α → Json → Except DecodeError α) slot => ∀ sofar, Reads slot (write sofar) value)
    h key

/-- An index is that of a field and of its place, or of neither. -/
theorem FieldsRead.item? {value : Json} (h : FieldsRead record kind value) (index : Nat) :
    record.fields[index]? = none ∧ kind.fields.length ≤ index ∨
      ∃ key write slot, record.fields[index]? = some (key, write) ∧
        index < kind.fields.length ∧ (Kind.record kind).item? index = some slot ∧
        ∀ sofar, Reads slot (write sofar) value := by
  rcases getElem?_of_forall₂ h index with ⟨hfield, hplace⟩ | ⟨field, place, hfield, hplace, hreads⟩
  · exact .inl ⟨hfield, List.getElem?_eq_none_iff.1 hplace⟩
  · have hitem : (Kind.record kind).item? index = some place.2 := by
      rw [Kind.item?, hplace]
      rfl
    exact .inr ⟨field.1, field.2, place.2, hfield, (List.getElem?_eq_some_iff.1 hplace).1, hitem,
      hreads.2⟩

theorem members_reads {entries : List (String × Json)}
    (h : ∀ entry ∈ entries, FieldsRead record kind entry.2) (sofar : α) :
    failure? (record.members sofar entries) = firstError (walkMembers (.record kind) entries) ∧
      record.members sofar (pruneMembers (.record kind) entries) =
        record.members sofar entries := by
  induction entries generalizing sofar with
  | nil => exact ⟨rfl, rfl⟩
  | cons entry rest ih =>
    obtain ⟨key, value⟩ := entry
    obtain ⟨hfirst, hrest⟩ := List.forall_mem_cons.1 h
    rcases hfirst.member? key with ⟨hlookup, hmember⟩ | ⟨write, slot, hlookup, hmember, hreads⟩
    · -- No field has the key: the member is passed over.
      simp only [Decode.Record.members, walkMembers, pruneMembers, hlookup, hmember]
      exact ih hrest sofar
    · obtain ⟨hfailure, hpruned⟩ := hreads sofar
      -- The error of the member comes first, and only without one is the rest looked at.
      simp only [Decode.Record.members, walkMembers, pruneMembers, hlookup, hmember,
        firstError_append, firstError_within, ← hfailure, hpruned]
      cases write sofar value with
      | error e => exact ⟨rfl, rfl⟩
      | ok next => exact ih hrest next

theorem values_reads {entries : List Json} (h : ∀ value ∈ entries, FieldsRead record kind value)
    (sofar : α) (count : Nat) {index : Nat} (hindex : index ≤ kind.fields.length) :
    failure? (record.values sofar count index entries) =
        (firstError (walkValues (.record kind) index entries)).or
          (if index + entries.length ≤ kind.fields.length then none
            else some (.here (.tooMany count))) ∧
      record.values sofar count index (pruneValues (.record kind) index entries) =
        record.values sofar count index entries := by
  induction entries generalizing sofar index with
  | nil =>
    rw [List.length_nil, if_pos (by omega)]
    exact ⟨rfl, rfl⟩
  | cons value rest ih =>
    obtain ⟨hfirst, hrest⟩ := List.forall_mem_cons.1 h
    rw [List.length_cons]
    rcases hfirst.item? index with ⟨hfield, hend⟩ | ⟨key, write, slot, hfield, hlt, hitem, hreads⟩
    · -- The values go on beyond the fields, and no place is for what is left.
      have hitem : ∀ later, index ≤ later → (Kind.record kind).item? later = none := by
        intro later hlater
        rw [Kind.item?, List.getElem?_eq_none (by omega)]
        rfl
      rw [walkValues_eq_nil hitem, if_neg (by omega)]
      simp only [Decode.Record.values, pruneValues, hitem index (Nat.le_refl _), hfield]
      exact ⟨rfl, trivial⟩
    · obtain ⟨hfailure, hpruned⟩ := hreads sofar
      simp only [Decode.Record.values, walkValues, pruneValues, hfield, hitem, firstError_append,
        firstError_within, ← hfailure, hpruned]
      cases write sofar value with
      | error e => exact ⟨rfl, rfl⟩
      | ok next =>
        rw [show index + (rest.length + 1) = index + 1 + rest.length by omega]
        exact ih hrest next hlt

theorem length_pruneValues (kind : Kind) (index : Nat) (values : List Json) :
    (pruneValues kind index values).length = values.length := by
  induction values generalizing index with
  | nil => rfl
  | cons value rest ih =>
    rw [pruneValues]
    split
    · rw [List.length_cons, List.length_cons, ih]
    · rw [List.length_cons, List.length_cons, ih]

/-- **A record does what the grammar says**, if its fields do with the values inside. -/
theorem reads_record (hwanted : record.wanted = kind.wanted) {value : Json}
    (h : ∀ inner, sizeOf inner < sizeOf value → FieldsRead record kind inner) (empty : α) :
    Reads (.must (.record kind)) (record.decode empty) value := by
  cases value with
  | object members =>
    have hmembers : ∀ entry ∈ members, FieldsRead record kind entry.2 :=
      fun entry hentry => h entry.2 (sizeOf_lt_object hentry)
    obtain ⟨hfailure, hpruned⟩ := members_reads hmembers empty
    exact Reads.of_inside rfl rfl hfailure hpruned
  | array values =>
    -- An array that is too long is wrong itself, but what is in range comes before it.
    have hvalues : ∀ value ∈ values, FieldsRead record kind value :=
      fun value hvalue => h value (sizeOf_lt_array hvalue)
    obtain ⟨hfailure, hpruned⟩ := values_reads hvalues empty values.length (Nat.zero_le _)
    constructor
    · rw [walk, firstError_append, firstError_singleton]
      refine hfailure.trans (congrArg (Option.or _) ?_)
      rw [Nat.zero_add, Place.error?, Slot.must, Slot.fault?, Kind.fault?]
      · split <;> rfl
      · simp
    · rw [Slot.kind_must, prune, Decode.Record.decode, length_pruneValues]
      exact hpruned
  | _ => exact Reads.of_bare rfl (by rw [Decode.Record.decode, hwanted] <;> first | rfl | simp) rfl

end

/-! ### Schemas -/

/-- Decoding a schema does with the value what the grammar says. -/
abbrev SchemaReads (value : Json) : Prop :=
  Reads (.must (.record .schema)) Decode.schema value

theorem namedSchemas_reads {members : List (String × Json)}
    (h : ∀ entry ∈ members, SchemaReads entry.2) :
    failure? (Decode.namedSchemas members) = firstError (walkMembers .named members) ∧
      Decode.namedSchemas (pruneMembers .named members) = Decode.namedSchemas members := by
  induction members with
  | nil => exact ⟨rfl, rfl⟩
  | cons entry rest ih =>
    obtain ⟨key, value⟩ := entry
    obtain ⟨⟨hfailure, hpruned⟩, hrest⟩ := List.forall_mem_cons.1 h
    obtain ⟨ihfailure, ihpruned⟩ := ih hrest
    simp only [Slot.kind_must] at hpruned
    simp only [Decode.namedSchemas, walkMembers, pruneMembers, Kind.member?, Slot.kind_must,
      firstError_append, firstError_within, ← hfailure, ← ihfailure, hpruned, ihpruned]
    cases Decode.schema value with
    | error e => exact ⟨rfl, trivial⟩
    | ok first => cases Decode.namedSchemas rest <;> exact ⟨rfl, trivial⟩

theorem schemaList_reads {values : List Json} (h : ∀ value ∈ values, SchemaReads value)
    (index : Nat) :
    failure? (Decode.schemaList index values) = firstError (walkValues .list index values) ∧
      Decode.schemaList index (pruneValues .list index values) =
        Decode.schemaList index values := by
  induction values generalizing index with
  | nil => exact ⟨rfl, rfl⟩
  | cons value rest ih =>
    obtain ⟨⟨hfailure, hpruned⟩, hrest⟩ := List.forall_mem_cons.1 h
    obtain ⟨ihfailure, ihpruned⟩ := ih hrest (index + 1)
    simp only [Slot.kind_must] at hpruned
    simp only [Decode.schemaList, walkValues, pruneValues, Kind.item?, Slot.kind_must,
      firstError_append, firstError_within, ← hfailure, ← ihfailure, hpruned, ihpruned]
    cases Decode.schema value with
    | error e => exact ⟨rfl, trivial⟩
    | ok first => cases Decode.schemaList (index + 1) rest <;> exact ⟨rfl, trivial⟩

theorem reads_named {value : Json} (h : ∀ inner, sizeOf inner < sizeOf value → SchemaReads inner) :
    Reads (.must .named) Decode.schemaMap value := by
  cases value with
  | object members =>
    have hmembers : ∀ entry ∈ members, SchemaReads entry.2 :=
      fun entry hentry => h entry.2 (sizeOf_lt_object hentry)
    obtain ⟨hfailure, hpruned⟩ := namedSchemas_reads hmembers
    exact Reads.of_inside rfl rfl hfailure hpruned
  | array values =>
    refine Reads.of_bare ?_ rfl rfl
    rw [walk, Slot.kind_must, walkValues_eq_nil fun _ _ => rfl]
    rfl
  | _ => exact Reads.of_bare rfl rfl rfl

theorem reads_list {value : Json} (h : ∀ inner, sizeOf inner < sizeOf value → SchemaReads inner) :
    Reads (.must .list) Decode.schemaSequence value := by
  cases value with
  | array values =>
    have hvalues : ∀ value ∈ values, SchemaReads value :=
      fun value hvalue => h value (sizeOf_lt_array hvalue)
    obtain ⟨hfailure, hpruned⟩ := schemaList_reads hvalues 0
    exact Reads.of_inside rfl rfl hfailure hpruned
  | object members =>
    refine Reads.of_bare ?_ rfl rfl
    rw [walk, Slot.kind_must, walkMembers_eq_nil fun _ => rfl]
    rfl
  | _ => exact Reads.of_bare rfl rfl rfl

/-- The place of a field of a schema. -/
def fieldSlot : Decode.SchemaField → Slot
  | .type => .may .type
  | .format => .may .text
  | .pattern => .may .text
  | .minLength => .may .count
  | .maxLength => .may .count
  | .minimum => .may .number
  | .maximum => .may .number
  | .minItems => .may .count
  | .maxItems => .may .count
  | .initial => .must .anything
  | .required => .must .anything
  | .properties => .must .named
  | .items => .may (.record .schema)
  | .allOf => .must .list

theorem reads_field (field : Decode.SchemaField) {value : Json}
    (h : ∀ inner, sizeOf inner ≤ sizeOf value → SchemaReads inner) :
    Reads (fieldSlot field) field.decode value := by
  cases field with
  | type => exact (reads_type value).optional
  | format => exact (reads_text value).optional
  | pattern => exact (reads_text value).optional
  | minLength => exact (reads_count value).optional
  | maxLength => exact (reads_count value).optional
  | minimum => exact (reads_number value).optional
  | maximum => exact (reads_number value).optional
  | minItems => exact (reads_count value).optional
  | maxItems => exact (reads_count value).optional
  | initial => exact reads_anything Decode.initialValue value
  | required => exact reads_anything Decode.requiredNames value
  | properties => exact reads_named fun inner hlt => h inner (Nat.le_of_lt hlt)
  | items => exact (h value (Nat.le_refl _)).optional
  | allOf => exact reads_list fun inner hlt => h inner (Nat.le_of_lt hlt)

theorem fieldsRead_schema {value : Json}
    (h : ∀ inner, sizeOf inner ≤ sizeOf value → SchemaReads inner) :
    FieldsRead Decode.schemaRecord .schema value := by
  have hplaces : RecordKind.schema.fields =
      Decode.SchemaField.declared.map fun field => (field.key, fieldSlot field) := rfl
  rw [FieldsRead, hplaces, Decode.schemaRecord, List.forall₂_map_left_iff,
    List.forall₂_map_right_iff, List.forall₂_same]
  intro field _
  refine ⟨rfl, fun sofar => ?_⟩
  -- What is known about the other fields plays no part in decoding this one.
  simp only [Decode.schemaField_eq]
  exact (reads_field field h).map (field.set sofar)

/-- **Schemas are decoded as the grammar says.** -/
theorem schema_reads (value : Json) : SchemaReads value := by
  have hfields : ∀ inner, sizeOf inner < sizeOf value →
      FieldsRead Decode.schemaRecord .schema inner :=
    fun inner hlt => fieldsRead_schema fun below hle => schema_reads below
  have hschema : Decode.schema = Decode.schemaRecord.decode {} := funext Decode.schema_eq_decode
  rw [SchemaReads, hschema]
  exact reads_record rfl hfields {}
termination_by sizeOf value

/-! ### Documents -/

theorem reads_schemaMap (value : Json) : Reads (.must .named) Decode.schemaMap value :=
  reads_named fun inner _ => schema_reads inner

theorem reads_info (value : Json) :
    Reads (.must (.record .info)) (Decode.infoRecord.decode {}) value := by
  have hwanted : Decode.infoRecord.wanted = RecordKind.info.wanted := rfl
  refine reads_record hwanted (fun inner _ => ?_) {}
  refine .cons ⟨rfl, fun sofar => ?_⟩ .nil
  exact (reads_text inner).optional.map fun title => { sofar with title }

theorem reads_components (value : Json) :
    Reads (.must (.record .components)) (Decode.componentsRecord.decode {}) value := by
  have hwanted : Decode.componentsRecord.wanted = RecordKind.components.wanted := rfl
  refine reads_record hwanted (fun inner _ => ?_) {}
  refine .cons ⟨rfl, fun sofar => ?_⟩ .nil
  exact (reads_schemaMap inner).optional.map fun schemas => { sofar with schemas }

/-- **Documents are decoded as the grammar says.** -/
theorem reads_document (value : Json) :
    Reads (.must (.record .document)) Document.ofJson value := by
  have hwanted : Decode.documentRecord.wanted = RecordKind.document.wanted := rfl
  refine reads_record hwanted (fun inner _ => ?_) {}
  refine .cons ⟨rfl, fun sofar => ?_⟩
    (.cons ⟨rfl, fun sofar => ?_⟩ (.cons ⟨rfl, fun sofar => ?_⟩ .nil))
  · exact (reads_schemaMap inner).optional.map fun definitions => { sofar with definitions }
  · exact (reads_components inner).optional.map fun components => { sofar with components }
  · exact (reads_info inner).optional.map fun info => { sofar with info }

end Grammar

end SchemaForms
