/-
No object holds a key twice. The readers build objects by writing members one after the
other, so what they return has distinct keys at every depth, and replacing references
keeps it so: it changes the values under keys and copies whole parts of the root.

The lists that represent members could hold a key twice, and then looking a key up and
going through all members would disagree. What is decoded from a text is decided by the
second, and what a place means by the first; this module is where the two meet.
-/
import SchemaForms.Proofs.Reference.Expansion
import SchemaForms.Spec.Basic

set_option autoImplicit false

namespace SchemaForms

theorem Keyed.distinct_nil {α : Type} : Keyed.Distinct ([] : Keyed α) :=
  List.nodup_nil

namespace Json

/-! ## Distinct keys at every depth -/

mutual

/-- No object in the value holds a key twice. -/
def WellKeyed : Json → Prop
  | array items => WellKeyedItems items
  | object members => Keyed.Distinct members ∧ WellKeyedMembers members
  | _ => True

def WellKeyedItems : List Json → Prop
  | [] => True
  | item :: rest => WellKeyed item ∧ WellKeyedItems rest

def WellKeyedMembers : List (String × Json) → Prop
  | [] => True
  | (_, value) :: rest => WellKeyed value ∧ WellKeyedMembers rest

end

theorem wellKeyed_of_isScalar {value : Json} (h : value.isScalar = true) : value.WellKeyed := by
  cases value with
  | array => cases h
  | object => cases h
  | _ => simp only [WellKeyed]

theorem wellKeyedItems_iff {items : List Json} :
    WellKeyedItems items ↔ ∀ item ∈ items, item.WellKeyed := by
  induction items with
  | nil => simp [WellKeyedItems]
  | cons item rest ih => rw [WellKeyedItems, ih, List.forall_mem_cons]

theorem WellKeyedMembers.get? {members : List (String × Json)} (h : WellKeyedMembers members)
    {key : String} {value : Json} (hkey : Keyed.get? members key = some value) :
    value.WellKeyed := by
  induction members with
  | nil => cases hkey
  | cons member rest ih =>
    obtain ⟨k, v⟩ := member
    rw [WellKeyedMembers] at h
    rw [Keyed.get?, List.lookup_cons] at hkey
    split at hkey
    · obtain rfl := Option.some.inj hkey
      exact h.1
    · exact ih h.2 hkey

/-- Writing a member keeps what is known of the others. -/
theorem WellKeyedMembers.put {members : List (String × Json)} (h : WellKeyedMembers members)
    {key : String} {value : Json} (hvalue : value.WellKeyed) :
    WellKeyedMembers (Keyed.put members key value) := by
  induction members with
  | nil => exact ⟨hvalue, trivial⟩
  | cons member rest ih =>
    obtain ⟨k, v⟩ := member
    rw [WellKeyedMembers] at h
    rw [Keyed.put]
    split
    · exact ⟨hvalue, h.2⟩
    · exact ⟨h.1, ih h.2⟩

/-! ## Replacing references -/

theorem WellKeyed.child? {value below : Json} (h : value.WellKeyed) {token : List Char}
    (hbelow : Json.child? token value = some below) : below.WellKeyed := by
  cases value with
  | array items =>
    simp only [Json.child?] at hbelow
    split at hbelow
    · rw [WellKeyed] at h
      exact wellKeyedItems_iff.1 h _ (List.mem_of_getElem? hbelow)
    · cases hbelow
  | object members =>
    rw [WellKeyed] at h
    exact h.2.get? hbelow
  | null => cases hbelow
  | bool => cases hbelow
  | number => cases hbelow
  | string => cases hbelow

theorem WellKeyed.descend? {value below : Json} (h : value.WellKeyed)
    {tokens : List (List Char)} (hbelow : Json.descend? tokens value = some below) :
    below.WellKeyed := by
  induction tokens generalizing value with
  | nil =>
    obtain rfl := Option.some.inj hbelow
    exact h
  | cons token rest ih =>
    simp only [Json.descend?] at hbelow
    split at hbelow
    · rename_i next hnext
      exact ih (h.child? hnext) hbelow
    · cases hbelow

theorem WellKeyed.target {root value : Json} {reference : String} (h : root.WellKeyed)
    (htarget : root.target reference = .ok value) : value.WellKeyed := by
  unfold Json.target at htarget
  split at htarget
  · split at htarget
    · rename_i hpointer
      obtain rfl := Except.ok.inj htarget
      unfold Json.pointer? at hpointer
      split at hpointer
      · exact h.descend? hpointer
      · cases hpointer
    · cases htarget
  · cases htarget

mutual

/-- **Replacing references keeps keys apart.** The induction is on the expansion; the
target of a reference is a part of the root. -/
theorem Expands.wellKeyed {root : Json} (hroot : root.WellKeyed) : ∀ {value result : Json},
    Expands root value result → value.WellKeyed → result.WellKeyed
  | _, _, .scalar _, hvalue => hvalue
  | _, _, .array h, hvalue => by
    rw [WellKeyed] at hvalue ⊢
    exact h.wellKeyed hroot hvalue
  | _, _, .object _ h, hvalue => by
    rw [WellKeyed] at hvalue ⊢
    refine ⟨?_, h.wellKeyed hroot hvalue.2⟩
    rw [Keyed.Distinct, h.keys_eq]
    exact hvalue.1
  | _, _, .reference _ htarget h, _ => h.wellKeyed hroot (hroot.target htarget)

theorem ExpandsItems.wellKeyed {root : Json} (hroot : root.WellKeyed) :
    ∀ {items results : List Json}, ExpandsItems root items results →
      WellKeyedItems items → WellKeyedItems results
  | _, _, .nil, h => h
  | _, _, .cons first rest, h => by
    rw [WellKeyedItems] at h ⊢
    exact ⟨first.wellKeyed hroot h.1, rest.wellKeyed hroot h.2⟩

theorem ExpandsMembers.wellKeyed {root : Json} (hroot : root.WellKeyed) :
    ∀ {members results : List (String × Json)}, ExpandsMembers root members results →
      WellKeyedMembers members → WellKeyedMembers results
  | _, _, .nil, h => h
  | _, _, .cons first rest, h => by
    rw [WellKeyedMembers] at h ⊢
    exact ⟨first.wellKeyed hroot h.1, rest.wellKeyed hroot h.2⟩

end

/-! ## Reading JSON -/

/-- A reader whose values have distinct keys. -/
def ReadsWellKeyed (value : ValueReader) : Prop :=
  ∀ s item rest, value s = some (item, rest) → item.WellKeyed

theorem items?_wellKeyed {value : ValueReader} (hvalue : ReadsWellKeyed value)
    {taken items : List Json} {bound : Nat} {s rest : List Char}
    (htaken : ∀ item ∈ taken, item.WellKeyed)
    (h : items? value taken bound s = some (items, rest)) : WellKeyedItems items := by
  induction bound generalizing taken s with
  | zero => cases h
  | succ bound ih =>
    rw [items?] at h
    split at h
    · cases h
    · rename_i item after hitem
      have hall : ∀ other ∈ item :: taken, other.WellKeyed :=
        List.forall_mem_cons.2 ⟨hvalue _ _ _ hitem, htaken⟩
      split at h
      · exact ih hall h
      · obtain ⟨rfl, rfl⟩ := Prod.mk.inj (Option.some.inj h)
        exact wellKeyedItems_iff.2 fun other hother => hall other (List.mem_reverse.1 hother)
      · cases h

theorem members?_wellKeyed {value : ValueReader} (hvalue : ReadsWellKeyed value)
    {taken members : Keyed Json} {bound : Nat} {s rest : List Char}
    (hdistinct : taken.Distinct) (htaken : WellKeyedMembers taken)
    (h : members? value taken bound s = some (members, rest)) :
    members.Distinct ∧ WellKeyedMembers members := by
  induction bound generalizing taken s with
  | zero => cases h
  | succ bound ih =>
    rw [members?] at h
    split at h
    · cases h
    · rename_i key afterKey hkey
      split at h
      · cases h
      · rename_i item after hitem
        have hitem : item.WellKeyed := hvalue _ _ _ hitem
        split at h
        · exact ih (hdistinct.put key item) (htaken.put hitem) h
        · obtain ⟨rfl, rfl⟩ := Prod.mk.inj (Option.some.inj h)
          exact ⟨hdistinct.put key item, htaken.put hitem⟩
        · cases h

/-- The induction is on the depth that is left: an array or object reads what it holds
with the reader for one level less. -/
theorem value?_wellKeyed (bound depth : Nat) : ReadsWellKeyed (value? bound depth) := by
  induction depth using Nat.strongRecOn with
  | ind depth ih =>
    intro s value rest h
    rw [value?] at h
    split at h
    · obtain ⟨rfl, rfl⟩ := Prod.mk.inj (Option.some.inj h)
      exact wellKeyed_of_isScalar rfl
    · obtain ⟨rfl, rfl⟩ := Prod.mk.inj (Option.some.inj h)
      exact wellKeyed_of_isScalar rfl
    · obtain ⟨rfl, rfl⟩ := Prod.mk.inj (Option.some.inj h)
      exact wellKeyed_of_isScalar rfl
    · obtain ⟨⟨text, after⟩, -, h⟩ := Option.map_eq_some_iff.1 h
      obtain ⟨rfl, rfl⟩ := Prod.mk.inj h
      exact wellKeyed_of_isScalar rfl
    -- Arrays and objects, empty or not.
    · split at h
      · cases h
      · rename_i depth
        split at h
        · obtain ⟨rfl, rfl⟩ := Prod.mk.inj (Option.some.inj h)
          simp only [WellKeyed, WellKeyedItems]
        · obtain ⟨⟨items, after⟩, hitems, h⟩ := Option.map_eq_some_iff.1 h
          obtain ⟨rfl, rfl⟩ := Prod.mk.inj h
          rw [WellKeyed]
          exact items?_wellKeyed (ih depth (Nat.lt_succ_self depth)) (by simp) hitems
    · split at h
      · cases h
      · rename_i depth
        split at h
        · obtain ⟨rfl, rfl⟩ := Prod.mk.inj (Option.some.inj h)
          simp only [WellKeyed, WellKeyedMembers]
          exact ⟨Keyed.distinct_nil, trivial⟩
        · obtain ⟨⟨members, after⟩, hmembers, h⟩ := Option.map_eq_some_iff.1 h
          obtain ⟨rfl, rfl⟩ := Prod.mk.inj h
          rw [WellKeyed]
          exact members?_wellKeyed (ih depth (Nat.lt_succ_self depth)) Keyed.distinct_nil trivial
            hmembers
    · obtain ⟨⟨n, after⟩, -, h⟩ := Option.map_eq_some_iff.1 h
      obtain ⟨rfl, rfl⟩ := Prod.mk.inj h
      exact wellKeyed_of_isScalar rfl

theorem read?_wellKeyed {text : String} {value : Json} (h : read? text = some value) :
    value.WellKeyed := by
  simp only [read?] at h
  split at h
  · rename_i found rest hvalue
    split at h
    · obtain rfl := Option.some.inj h
      exact value?_wellKeyed _ _ _ _ _ hvalue
    · cases h
  · cases h

end Json

/-! ## Reading YAML -/

namespace Yaml

open Json

/-- Every value that a computation can give has the property. -/
def Gives {α : Type} (property : α → Prop) (x : Node.Following α) : Prop :=
  ∀ left a left', x.run left = some (a, left') → property a

namespace Gives

variable {α β : Type} {property : α → Prop} {onward : β → Prop}

theorem pure {a : α} (h : property a) : Gives property (Pure.pure a : Node.Following α) := by
  intro left b left' hrun
  obtain ⟨rfl, -⟩ := Prod.mk.inj (Option.some.inj hrun)
  exact h

theorem failure : Gives property (Alternative.failure : Node.Following α) := by
  intro left b left' hrun
  cases hrun

theorem bind {x : Node.Following α} {f : α → Node.Following β} (hx : Gives property x)
    (hf : ∀ a, property a → Gives onward (f a)) : Gives onward (x >>= f) := by
  intro left b left' hrun
  obtain ⟨⟨a, between⟩, hfirst, hrest⟩ := Option.bind_eq_some_iff.1 hrun
  exact hf a (hx _ _ _ hfirst) _ _ _ hrest

/-- Nothing need be known of a value that is thrown away or only compared. -/
theorem trivial {x : Node.Following α} : Gives (fun _ => True) x :=
  fun _ _ _ _ => True.intro

theorem mapM {γ : Type} {f : γ → Node.Following α} {list : List γ}
    (h : ∀ c ∈ list, Gives property (f c)) :
    Gives (fun results => ∀ a ∈ results, property a) (list.mapM f) := by
  induction list with
  | nil =>
    rw [List.mapM_nil]
    exact pure (by simp)
  | cons c rest ih =>
    rw [List.mapM_cons]
    refine bind (h c List.mem_cons_self) fun a ha => ?_
    refine bind (ih fun other hother => h other (List.mem_cons_of_mem _ hother)) fun as has => ?_
    exact pure (List.forall_mem_cons.2 ⟨ha, has⟩)

end Gives

/-! ### Scalars -/

theorem ofInteger?_isScalar {n : Int} {value : Json} (h : ofInteger? n = some value) :
    value.isScalar = true := by
  unfold ofInteger? at h
  split at h
  · obtain rfl := Option.some.inj h
    rfl
  · cases h

theorem decimal?_isScalar {s : String} {value : Json} (h : decimal? s = some value) :
    value.isScalar = true := by
  unfold decimal? at h
  split at h
  · obtain rfl := Option.some.inj h
    rfl
  · obtain ⟨x, -, rfl⟩ := Option.map_eq_some_iff.1 h
    rfl

theorem plainValue?_isScalar {s : String} {value : Json} (h : plainValue? s = some value) :
    value.isScalar = true := by
  unfold plainValue? at h
  split at h
  · obtain rfl := Option.some.inj h
    rfl
  split at h
  · obtain rfl := Option.some.inj h
    rfl
  · exact ofInteger?_isScalar h
  split at h
  · obtain rfl := Option.some.inj h
    rfl
  · obtain rfl := Option.some.inj h
    cases hdecimal : decimal? s with
    | none => rfl
    | some found => exact decimal?_isScalar hdecimal

theorem untaggedValue?_isScalar {plain : Bool} {s : String} {value : Json}
    (h : untaggedValue? plain s = some value) : value.isScalar = true := by
  unfold untaggedValue? at h
  split at h
  · exact plainValue?_isScalar h
  · obtain rfl := Option.some.inj h
    rfl

/-- A scalar node stands for a scalar, whatever its tag asks for. -/
theorem scalarValue?_isScalar {tag : Option (List Char)} {plain : Bool} {s : String}
    {value : Json} (h : scalarValue? tag plain s = some value) : value.isScalar = true := by
  cases tag with
  | none => exact untaggedValue?_isScalar h
  | some tag =>
    simp only [scalarValue?, taggedValue?] at h
    split at h
    · obtain ⟨b, -, rfl⟩ := Option.map_eq_some_iff.1 h
      rfl
    split at h
    · obtain ⟨n, -, h⟩ := Option.bind_eq_some_iff.1 h
      exact ofInteger?_isScalar h
    split at h
    · exact decimal?_isScalar h
    split at h
    · split at h
      · obtain rfl := Option.some.inj h
        rfl
      · cases h
    split at h
    · cases h
    split at h
    · exact untaggedValue?_isScalar h
    · obtain rfl := Option.some.inj h
      rfl

/-! ### Nodes -/

theorem members_wellKeyed {anchors : List (Nat × Node)} {value : Node → Node.Following Json}
    (hvalue : ∀ node, Gives WellKeyed (value node)) {taken : Keyed Json}
    (hdistinct : taken.Distinct) (htaken : WellKeyedMembers taken)
    (entries : List (Node × Node)) :
    Gives (fun members => Keyed.Distinct members ∧ WellKeyedMembers members)
      (Node.members anchors value taken entries) := by
  induction entries generalizing taken with
  | nil =>
    rw [Node.members]
    exact .pure ⟨hdistinct, htaken⟩
  | cons entry rest ih =>
    obtain ⟨k, v⟩ := entry
    rw [Node.members]
    -- Nothing is asked of the key: writing it keeps keys apart, whichever it is.
    refine .bind .trivial fun key _ => ?_
    refine .bind (hvalue v) fun item hitem => ?_
    exact ih (hdistinct.put key item) (htaken.put hitem)

theorem value_wellKeyed (anchors : List (Nat × Node)) (depth : Nat) (node : Node) :
    Gives WellKeyed (Node.value anchors depth node) := by
  induction depth using Nat.strongRecOn generalizing node with
  | ind depth ih =>
    rw [Node.value]
    -- An alias is followed first, and may lead to any node.
    refine .bind .trivial fun node _ => ?_
    split
    · split
      · rename_i hscalar
        exact .pure (wellKeyed_of_isScalar (scalarValue?_isScalar hscalar))
      · exact .failure
    · split
      · exact .failure
      · rename_i depth
        refine .bind .trivial fun _ _ => ?_
        refine .bind (.mapM fun item _ => ih depth (Nat.lt_succ_self depth) item) ?_
        intro items hitems
        exact .pure (by rw [WellKeyed]; exact wellKeyedItems_iff.2 hitems)
    · split
      · exact .failure
      · rename_i depth
        refine .bind .trivial fun _ _ => ?_
        refine .bind (members_wellKeyed (ih depth (Nat.lt_succ_self depth)) Keyed.distinct_nil
          trivial _) ?_
        intro members hmembers
        exact .pure (by rw [WellKeyed]; exact hmembers)
    · exact .failure

theorem read?_wellKeyed {text : String} {value : Json} (h : Yaml.read? text = some value) :
    value.WellKeyed := by
  simp only [Yaml.read?] at h
  obtain ⟨glyphs, -, h⟩ := Option.bind_eq_some_iff.1 h
  obtain ⟨tokens, -, h⟩ := Option.bind_eq_some_iff.1 h
  obtain ⟨root, -, h⟩ := Option.bind_eq_some_iff.1 h
  obtain ⟨⟨found, left⟩, hrun, rfl⟩ := Option.map_eq_some_iff.1 h
  exact value_wellKeyed _ _ _ _ _ _ hrun

end Yaml

/-- **A value read from a text has distinct keys**, whatever the notation. -/
theorem Format.read?_wellKeyed {format : Format} {text : String} {value : Json}
    (h : format.read? text = some value) : value.WellKeyed := by
  cases format with
  | json => exact Json.read?_wellKeyed h
  | yaml => exact Yaml.read?_wellKeyed h
  | unknown =>
    simp only [Format.read?] at h
    split at h
    · rename_i found hjson
      obtain rfl := Option.some.inj h
      exact Json.read?_wellKeyed hjson
    · exact Yaml.read?_wellKeyed h

end SchemaForms
