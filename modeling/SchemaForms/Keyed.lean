/-
Keyed lists: members of an object, named schemas, properties. Their order is the order
in which keys first appeared and can be seen in every answer, so they are lists of pairs
and not search trees. Writing a key that is present changes its value in place, and a
new key goes to the end; so no key occurs twice in a list built by writing.
-/

set_option autoImplicit false

namespace SchemaForms

/-- Values by key, in the order in which the keys first appeared. -/
abbrev Keyed (α : Type) := List (String × α)

namespace Keyed

variable {α : Type}

/-- The keys, in order. -/
def keys (entries : Keyed α) : List String :=
  entries.map Prod.fst

/-- The value of a key. -/
def get? (entries : Keyed α) (key : String) : Option α :=
  entries.lookup key

/-- Does the key occur? -/
def has (entries : Keyed α) (key : String) : Bool :=
  entries.any (·.1 == key)

/-- Writes a key: in place if it is present, else at the end. -/
def put : Keyed α → String → α → Keyed α
  | [], key, value => [(key, value)]
  | (k, v) :: rest, key, value =>
    if k == key then (k, value) :: rest else (k, v) :: put rest key value

/-- No key occurs twice. -/
def Distinct (entries : Keyed α) : Prop :=
  entries.keys.Nodup

theorem mem_of_get? {entries : Keyed α} {key : String} {value : α}
    (h : entries.get? key = some value) : (key, value) ∈ entries := by
  obtain ⟨before, behind, rfl, -⟩ := List.lookup_eq_some_iff.1 h
  exact List.mem_append_right _ List.mem_cons_self

/-- A key has no value exactly when it does not occur. -/
theorem get?_eq_none_iff {entries : Keyed α} {key : String} :
    entries.get? key = none ↔ key ∉ entries.keys := by
  simp only [get?, keys, List.lookup_eq_none_iff, List.mem_map, bne_iff_ne, ne_eq, not_exists,
    not_and]
  exact ⟨fun h entry hentry heq => h entry hentry heq.symm,
    fun h entry hentry heq => h entry hentry heq.symm⟩

/-- What writing does to the keys: nothing if the key is present, else it is appended. -/
theorem keys_put (entries : Keyed α) (key : String) (value : α) :
    (entries.put key value).keys =
      if key ∈ entries.keys then entries.keys else entries.keys ++ [key] := by
  induction entries with
  | nil => simp [put, keys]
  | cons entry rest ih =>
    obtain ⟨k, v⟩ := entry
    by_cases hk : k = key
    · subst hk
      simp [put, keys]
    · have step : (put rest key value).keys = _ := ih
      simp only [keys] at step
      by_cases hmem : key ∈ rest.map Prod.fst
      · simp [put, keys, hk, step, hmem]
      · simp [put, keys, hk, Ne.symm hk, step, hmem]

theorem get?_put_self (entries : Keyed α) (key : String) (value : α) :
    (entries.put key value).get? key = some value := by
  induction entries with
  | nil => simp [put, get?]
  | cons entry rest ih =>
    obtain ⟨k, v⟩ := entry
    by_cases hk : k = key
    · simp [put, get?, hk]
    · have hne : (key == k) = false := beq_eq_false_iff_ne.2 (Ne.symm hk)
      simpa [put, get?, hk, List.lookup_cons, hne] using ih

theorem get?_put_of_ne (entries : Keyed α) {key other : String} (value : α)
    (h : other ≠ key) : (entries.put key value).get? other = entries.get? other := by
  induction entries with
  | nil => simp [put, get?, List.lookup_cons, beq_eq_false_iff_ne.2 h]
  | cons entry rest ih =>
    obtain ⟨k, v⟩ := entry
    by_cases hk : k = key
    · simp [put, get?, hk, List.lookup_cons, beq_eq_false_iff_ne.2 h]
    · simp only [get?] at ih
      simp [put, get?, hk, List.lookup_cons, ih]

theorem Distinct.get?_of_mem {entries : Keyed α} (h : entries.Distinct) {key : String} {value : α}
    (hmem : (key, value) ∈ entries) : entries.get? key = some value := by
  induction entries with
  | nil => cases hmem
  | cons entry rest ih =>
    obtain ⟨k, v⟩ := entry
    rw [Distinct, keys, List.map_cons, List.nodup_cons] at h
    rw [get?, List.lookup_cons]
    rcases List.mem_cons.1 hmem with heq | hrest
    · obtain ⟨rfl, rfl⟩ := Prod.mk.inj heq
      rw [beq_self_eq_true]
    · have hk : (key == k) = false := by
        rw [beq_eq_false_iff_ne]
        rintro rfl
        exact h.1 (List.mem_map.2 ⟨(key, value), hrest, rfl⟩)
      rw [hk]
      exact ih h.2 hrest

/-- **Writing keeps keys apart.** -/
theorem Distinct.put {entries : Keyed α} (h : entries.Distinct) (key : String) (value : α) :
    (entries.put key value).Distinct := by
  unfold Distinct at *
  rw [keys_put]
  split
  · exact h
  · rename_i hmem
    refine List.nodup_append.2 ⟨h, by simp, ?_⟩
    intro a ha b hb
    rw [List.mem_singleton] at hb
    exact fun hab => hmem (hb ▸ hab ▸ ha)

end Keyed

end SchemaForms
