/-
Decoding a record is decoding its fields. A record is filled in by going through the
members of an object, or the values of an array, one after the other; what ends up in
one part of it is decided by the one member or value that belongs to the part, because
the others leave the part alone and keys do not repeat.

`Record.decode_field` says this once, for every record. Schemas are decoded by functions
of their own, since they hold schemas again; `schema_eq_decode` shows that these are the
functions of a record, so that the statement covers them too.
-/
import Mathlib.Data.List.Forall2
import SchemaForms.Proofs.Json.Distinct

set_option autoImplicit false

namespace SchemaForms

/-- The value of a field of a record with the given keys: under its key in an object, at
its index in an array. -/
def Json.field? (keys : List String) (key : String) : Json → Option Json
  | .object members => Keyed.get? members key
  | .array values => values[keys.idxOf key]?
  | _ => none

/-! ## Lists side by side -/

section

variable {α β : Type}

/-- In lists with the same keys a key has a value in both or in neither. -/
theorem Keyed.get?_of_forall₂ (R : α → β → Prop) {as : Keyed α} {bs : Keyed β}
    (h : List.Forall₂ (fun a b => a.1 = b.1 ∧ R a.2 b.2) as bs) (key : String) :
    as.get? key = none ∧ bs.get? key = none ∨
      ∃ a b, as.get? key = some a ∧ bs.get? key = some b ∧ R a b := by
  induction h with
  | nil => exact .inl ⟨rfl, rfl⟩
  | @cons a b as bs hfirst _ ih =>
    obtain ⟨k, a⟩ := a
    obtain ⟨k', b⟩ := b
    obtain ⟨rfl, hab⟩ : k = k' ∧ R a b := hfirst
    simp only [Keyed.get?, List.lookup_cons] at ih ⊢
    split
    · exact .inr ⟨a, b, rfl, rfl, hab⟩
    · exact ih

/-- In lists of the same length an index has a value in both or in neither. -/
theorem getElem?_of_forall₂ {R : α → β → Prop} {as : List α} {bs : List β}
    (h : List.Forall₂ R as bs) (index : Nat) :
    as[index]? = none ∧ bs[index]? = none ∨
      ∃ a b, as[index]? = some a ∧ bs[index]? = some b ∧ R a b := by
  induction h generalizing index with
  | nil => exact .inl ⟨rfl, rfl⟩
  | @cons a b as bs hab _ ih =>
    cases index with
    | zero => exact .inr ⟨a, b, rfl, rfl, hab⟩
    | succ index => exact ih index

end

namespace Decode

/-! ## Steps of a decoding that succeeds -/

theorem bind_ok {α β : Type} {x : Except DecodeError α} {f : α → Except DecodeError β} {b : β}
    (h : (x >>= f) = .ok b) : ∃ a, x = .ok a ∧ f a = .ok b := by
  match x, h with
  | .ok a, h => exact ⟨a, rfl, h⟩

theorem within_ok {α : Type} {step : PathStep} {x : Except DecodeError α} {a : α}
    (h : within step x = .ok a) : x = .ok a := by
  cases x with
  | error e => cases h
  | ok b => exact h

/-- A field that may be missing has been decoded. -/
theorem optional_ok {α : Type} {decode : Json → Except DecodeError α} {value : Json}
    {result : Option α} (h : optional decode value = .ok result) (hnull : value ≠ .null) :
    ∃ a, result = some a ∧ decode value = .ok a := by
  cases value with
  | null => exact (hnull rfl).elim
  | _ =>
    simp only [optional] at h
    split at h
    · rename_i a ha
      obtain rfl := Except.ok.inj h
      exact ⟨a, rfl, ha⟩
    · cases h

/-- **Schemas by name are decoded one for each member**, in order and with its name. -/
theorem forall₂_of_namedSchemas {members : List (String × Json)}
    {schemas : List (String × Schema)} (h : namedSchemas members = .ok schemas) :
    List.Forall₂ (fun member named => member.1 = named.1 ∧ schema member.2 = .ok named.2)
      members schemas := by
  induction members generalizing schemas with
  | nil =>
    obtain rfl := Except.ok.inj h
    exact .nil
  | cons member rest ih =>
    obtain ⟨name, value⟩ := member
    rw [namedSchemas] at h
    split at h
    · cases h
    · rename_i first hfirst
      split at h
      · rename_i others hothers
        obtain rfl := Except.ok.inj h
        exact .cons ⟨rfl, within_ok hfirst⟩ (ih hothers)
      · cases h

/-- The names of the schemas are the keys of the members. -/
theorem keys_namedSchemas {members : List (String × Json)} {schemas : List (String × Schema)}
    (h : namedSchemas members = .ok schemas) : Keyed.keys schemas = Keyed.keys members := by
  have hmembers := forall₂_of_namedSchemas h
  clear h
  induction hmembers with
  | nil => rfl
  | cons hfirst _ ih => exact congrArg₂ List.cons hfirst.1.symm ih

/-- **Schemas in a list are decoded one for each value**, in order. -/
theorem forall₂_of_schemaList {values : List Json} {schemas : List Schema} {index : Nat}
    (h : schemaList index values = .ok schemas) :
    List.Forall₂ (fun value decoded => schema value = .ok decoded) values schemas := by
  induction values generalizing schemas index with
  | nil =>
    obtain rfl := Except.ok.inj h
    exact .nil
  | cons value rest ih =>
    rw [schemaList] at h
    split at h
    · cases h
    · rename_i first hfirst
      split at h
      · rename_i others hothers
        obtain rfl := Except.ok.inj h
        exact .cons (within_ok hfirst) (ih hothers)
      · cases h

/-! ## Records -/

namespace Record

variable {α β : Type} {record : Record α} {part : α → β} {key : String}
  {write : α → Json → Except DecodeError α} {belongs : Json → β → Prop}

/-- The keys of a record, in declared order. -/
def keys (record : Record α) : List String :=
  record.fields.map Prod.fst

/-- A part of a record that belongs to one field: the field writes it, as `belongs` says,
and the other fields leave it alone. -/
structure PartOf (record : Record α) (part : α → β) (key : String)
    (write : α → Json → Except DecodeError α) (belongs : Json → β → Prop) : Prop where
  distinct : record.keys.Nodup
  declared : (key, write) ∈ record.fields
  written : ∀ {sofar value result}, write sofar value = .ok result →
    belongs value (part result)
  kept : ∀ {other write'}, (other, write') ∈ record.fields → other ≠ key →
    ∀ {sofar value result}, write' sofar value = .ok result → part result = part sofar

theorem mem_of_lookup {fields : List (String × (α → Json → Except DecodeError α))}
    (h : fields.lookup key = some write) : (key, write) ∈ fields := by
  obtain ⟨before, behind, rfl, -⟩ := List.lookup_eq_some_iff.1 h
  exact List.mem_append_right _ List.mem_cons_self

theorem lookup_of_mem {fields : List (String × (α → Json → Except DecodeError α))}
    (hdistinct : (fields.map Prod.fst).Nodup) (h : (key, write) ∈ fields) :
    fields.lookup key = some write :=
  Keyed.Distinct.get?_of_mem hdistinct h

/-- A field that decodes its value and sets a part to it writes that part. -/
theorem written_of_set {γ : Type} {decode : Json → Except DecodeError γ} (set : α → γ → α)
    {part : α → γ} (hset : ∀ sofar inner, part (set sofar inner) = inner) {sofar result : α}
    {value : Json} (h : (do return set sofar (← decode value)) = Except.ok result) :
    decode value = .ok (part result) := by
  obtain ⟨inner, hinner, h⟩ := bind_ok h
  obtain rfl := Except.ok.inj h
  rw [hset, hinner]

/-- It leaves alone every part that setting leaves alone. -/
theorem kept_of_set {γ : Type} {decode : Json → Except DecodeError γ} (set : α → γ → α)
    (hset : ∀ sofar inner, part (set sofar inner) = part sofar) {sofar result : α}
    {value : Json} (h : (do return set sofar (← decode value)) = Except.ok result) :
    part result = part sofar := by
  obtain ⟨inner, -, h⟩ := bind_ok h
  obtain rfl := Except.ok.inj h
  exact hset sofar inner

/-! ### The members of an object -/

/-- Members without the key leave the part alone. -/
theorem members_kept (hpart : PartOf record part key write belongs) {sofar result : α}
    {entries : List (String × Json)} (hkey : key ∉ Keyed.keys entries)
    (h : record.members sofar entries = .ok result) : part result = part sofar := by
  induction entries generalizing sofar with
  | nil =>
    obtain rfl := Except.ok.inj h
    rfl
  | cons entry rest ih =>
    obtain ⟨k, value⟩ := entry
    rw [Keyed.keys, List.map_cons, List.mem_cons, not_or] at hkey
    rw [members] at h
    split at h
    · exact ih hkey.2 h
    · rename_i write' hwrite'
      split at h
      · rename_i next hnext
        rw [ih hkey.2 h]
        exact hpart.kept (mem_of_lookup hwrite') (Ne.symm hkey.1) (within_ok hnext)
      · cases h

theorem members_field (hpart : PartOf record part key write belongs) {sofar result : α}
    {entries : List (String × Json)} (hdistinct : Keyed.Distinct entries) {value : Json}
    (hvalue : Keyed.get? entries key = some value)
    (h : record.members sofar entries = .ok result) : belongs value (part result) := by
  induction entries generalizing sofar with
  | nil => cases hvalue
  | cons entry rest ih =>
    obtain ⟨k, first⟩ := entry
    rw [Keyed.Distinct, Keyed.keys, List.map_cons, List.nodup_cons] at hdistinct
    rw [Keyed.get?, List.lookup_cons] at hvalue
    rw [members] at h
    split at hvalue
    · -- The member of the key: it writes the part, and no later one does.
      rename_i hk
      obtain rfl := eq_of_beq hk
      obtain rfl := Option.some.inj hvalue
      rw [lookup_of_mem hpart.distinct hpart.declared] at h
      simp only at h
      split at h
      · rename_i next hnext
        rw [members_kept hpart hdistinct.1 h]
        exact hpart.written (within_ok hnext)
      · cases h
    · split at h
      · exact ih hdistinct.2 hvalue h
      · split at h
        · exact ih hdistinct.2 hvalue h
        · cases h

/-! ### The values of an array -/

/-- A field stands at the index of its key. -/
theorem idxOf_keys (hdistinct : record.keys.Nodup) {index : Nat}
    (h : record.fields[index]? = some (key, write)) : record.keys.idxOf key = index := by
  have hkey : record.keys[index]? = some key := by
    rw [keys, List.getElem?_map, h]
    rfl
  obtain ⟨hlt, rfl⟩ := List.getElem?_eq_some_iff.1 hkey
  exact hdistinct.idxOf_getElem index hlt

theorem PartOf.getElem?_idxOf (hpart : PartOf record part key write belongs) :
    record.fields[record.keys.idxOf key]? = some (key, write) := by
  obtain ⟨index, hindex⟩ := List.getElem?_of_mem hpart.declared
  rw [idxOf_keys hpart.distinct hindex]
  exact hindex

/-- Values from beyond the index of the field leave the part alone. -/
theorem values_kept (hpart : PartOf record part key write belongs) {sofar result : α}
    {count index : Nat} {entries : List Json} (hindex : record.keys.idxOf key < index)
    (h : record.values sofar count index entries = .ok result) : part result = part sofar := by
  induction entries generalizing sofar index with
  | nil =>
    obtain rfl := Except.ok.inj h
    rfl
  | cons value rest ih =>
    rw [values] at h
    split at h
    · cases h
    · rename_i other write' hother
      split at h
      · rename_i next hnext
        rw [ih (by omega) h]
        refine hpart.kept (List.mem_of_getElem? hother) ?_ (within_ok hnext)
        rintro rfl
        have hidx := idxOf_keys hpart.distinct hother
        omega
      · cases h

/-- `ahead` is how far the field is from the value that is decoded next. -/
theorem values_field (hpart : PartOf record part key write belongs) {sofar result : α}
    {count index : Nat} {entries : List Json} {ahead : Nat}
    (hahead : record.keys.idxOf key = index + ahead) {value : Json}
    (hvalue : entries[ahead]? = some value)
    (h : record.values sofar count index entries = .ok result) : belongs value (part result) := by
  induction entries generalizing sofar index ahead with
  | nil => cases hvalue
  | cons first rest ih =>
    rw [values] at h
    split at h
    · cases h
    · rename_i other write' hother
      split at h
      · rename_i next hnext
        cases ahead with
        | zero =>
          -- The value of the field: it writes the part, and no later one does.
          obtain rfl := Option.some.inj hvalue
          rw [show index = record.keys.idxOf key by omega, hpart.getElem?_idxOf] at hother
          obtain ⟨rfl, rfl⟩ := Prod.mk.inj (Option.some.inj hother)
          rw [values_kept hpart (by omega) h]
          exact hpart.written (within_ok hnext)
        | succ ahead => exact ih (by omega) hvalue h
      · cases h

/-- Values that end before the index of the field leave the part alone. -/
theorem values_short (hpart : PartOf record part key write belongs) {sofar result : α}
    {count index : Nat} {entries : List Json}
    (hindex : index + entries.length ≤ record.keys.idxOf key)
    (h : record.values sofar count index entries = .ok result) : part result = part sofar := by
  induction entries generalizing sofar index with
  | nil =>
    obtain rfl := Except.ok.inj h
    rfl
  | cons value rest ih =>
    rw [List.length_cons] at hindex
    rw [values] at h
    split at h
    · cases h
    · rename_i other write' hother
      split at h
      · rename_i next hnext
        rw [ih (by omega) h]
        refine hpart.kept (List.mem_of_getElem? hother) ?_ (within_ok hnext)
        rintro rfl
        have hidx := idxOf_keys hpart.distinct hother
        omega
      · cases h

/-! ### Either way -/

/-- **A part of a record is what its field is decoded to.** -/
theorem decode_field (hpart : PartOf record part key write belongs) {empty result : α}
    {source value : Json} (hkeyed : source.WellKeyed)
    (hvalue : source.field? record.keys key = some value)
    (h : record.decode empty source = .ok result) : belongs value (part result) := by
  cases source with
  | object entries =>
    rw [Json.WellKeyed] at hkeyed
    exact members_field hpart hkeyed.1 hvalue h
  | array entries => exact values_field hpart (Nat.zero_add _).symm hvalue h
  | null => cases hvalue
  | bool => cases hvalue
  | number => cases hvalue
  | string => cases hvalue

/-- A part whose field is missing stays as it was in the beginning. -/
theorem decode_missing (hpart : PartOf record part key write belongs) {empty result : α}
    {source : Json} (hvalue : source.field? record.keys key = none)
    (h : record.decode empty source = .ok result) : part result = part empty := by
  cases source with
  | object entries =>
    refine members_kept hpart (fun hmem => ?_) h
    obtain ⟨entry, hentry, rfl⟩ := List.mem_map.1 hmem
    exact bne_iff_ne.1 (List.lookup_eq_none_iff.1 hvalue entry hentry) rfl
  | array entries =>
    refine values_short hpart ?_ h
    rw [Nat.zero_add]
    exact List.getElem?_eq_none_iff.1 hvalue
  | null => cases h
  | bool => cases h
  | number => cases h
  | string => cases h

end Record

/-! ## Schemas as records -/

/-- Schemas as a record: each field in its place, written as `schemaField` writes it. -/
def schemaRecord : Record Schema where
  wanted := .schema
  fields := SchemaField.declared.map fun field =>
    (field.key, fun sofar value => schemaField sofar field value)

theorem lookup_map_key (fields : List SchemaField)
    (write : SchemaField → Schema → Json → Except DecodeError Schema) (key : String) :
    (fields.map fun field => (field.key, write field)).lookup key =
      (fields.find? (·.key == key)).map write := by
  induction fields with
  | nil => rfl
  | cons field rest ih =>
    rw [List.map_cons, List.lookup_cons, List.find?_cons, BEq.comm, ih]
    cases field.key == key <;> rfl

theorem schemaMembers_eq (sofar : Schema) (members : List (String × Json)) :
    schemaMembers sofar members = schemaRecord.members sofar members := by
  induction members generalizing sofar with
  | nil => rw [schemaMembers, Record.members]
  | cons member rest ih =>
    obtain ⟨key, value⟩ := member
    rw [schemaMembers, Record.members]
    simp only [schemaRecord, lookup_map_key, SchemaField.ofKey?]
    cases SchemaField.declared.find? (·.key == key) with
    | none => exact ih sofar
    | some field =>
      simp only [Option.map_some]
      cases within (.key key) (schemaField sofar field value) with
      | ok next => exact ih next
      | error e => rfl

theorem schemaValues_eq (sofar : Schema) (count index : Nat) (values : List Json) :
    schemaValues sofar count index values = schemaRecord.values sofar count index values := by
  induction values generalizing sofar index with
  | nil => rw [schemaValues, Record.values]
  | cons value rest ih =>
    rw [schemaValues, Record.values]
    simp only [schemaRecord, List.getElem?_map]
    cases SchemaField.declared[index]? with
    | none => rfl
    | some field =>
      simp only [Option.map_some]
      cases within (.index index) (schemaField sofar field value) with
      | ok next => exact ih next (index + 1)
      | error e => rfl

/-- **Schemas are decoded as records are.** -/
theorem schema_eq_decode (value : Json) : schema value = schemaRecord.decode {} value := by
  cases value with
  | object members => rw [schema, schemaMembers_eq]; rfl
  | array values => rw [schema, schemaValues_eq]; rfl
  | _ => rw [schema] <;> first | rfl | simp

end Decode

end SchemaForms
