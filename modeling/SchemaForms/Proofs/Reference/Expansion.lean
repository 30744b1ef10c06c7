/-
What replacing references computes, without the walk that computes it.

`Expands root value result` says that `result` is `value` with every reference replaced
by the expansion of what it names in the root. There is no chain in it and nothing that
could stop a circle: a circle has no expansion because a derivation is finite. Two facts
carry everything that is said about `inline` later. An expansion is unique, so a chain
can never decide *what* a reference is replaced by; and a value expands only if no
reference met on the way leads back to itself (`Expands.sound`), so a chain that is
followed from the outside never has to refuse.

The walk is compared with this relation once, in `Proofs/Reference/Walk.lean`.
-/
import SchemaForms.Reference

set_option autoImplicit false

namespace SchemaForms.Json

/-! ## Kinds of values -/

/-- Is the value neither an array nor an object? -/
def isScalar : Json → Bool
  | array _ => false
  | object _ => false
  | _ => true

/-! ## The relation -/

mutual

/-- The value with every reference replaced by the expansion of what it names. -/
inductive Expands (root : Json) : Json → Json → Prop where
  | scalar {value : Json} (h : value.isScalar = true) : Expands root value value
  | array {items results : List Json} (h : ExpandsItems root items results) :
      Expands root (.array items) (.array results)
  | object {members results : List (String × Json)} (plain : referenceOf? members = none)
      (h : ExpandsMembers root members results) :
      Expands root (.object members) (.object results)
  | reference {members : List (String × Json)} {reference : String} {value result : Json}
      (href : referenceOf? members = some reference)
      (htarget : root.target reference = .ok value) (h : Expands root value result) :
      Expands root (.object members) result

inductive ExpandsItems (root : Json) : List Json → List Json → Prop where
  | nil : ExpandsItems root [] []
  | cons {item result : Json} {items results : List Json} (first : Expands root item result)
      (rest : ExpandsItems root items results) :
      ExpandsItems root (item :: items) (result :: results)

inductive ExpandsMembers (root : Json) :
    List (String × Json) → List (String × Json) → Prop where
  | nil : ExpandsMembers root [] []
  | cons {key : String} {value result : Json} {members results : List (String × Json)}
      (first : Expands root value result) (rest : ExpandsMembers root members results) :
      ExpandsMembers root ((key, value) :: members) ((key, result) :: results)

end

/-! ## An expansion is unique

The induction is on the first derivation, one case for each constructor. The kind of the
value decides the last step of the second one, except that an object may be a reference
or not; there `referenceOf?` decides. -/

mutual

/-- **One value, one expansion.** -/
theorem Expands.unique {root : Json} : ∀ {value a b : Json},
    Expands root value a → Expands root value b → a = b
  | _, _, _, .scalar h, hb => by
    cases hb with
    | scalar => rfl
    | array => cases h
    | object => cases h
    | reference => cases h
  | _, _, _, .array ha, hb => by
    cases hb with
    | scalar h => cases h
    | array hb => rw [ha.unique hb]
  | _, _, _, .object plain ha, hb => by
    cases hb with
    | scalar h => cases h
    | object _ hb => rw [ha.unique hb]
    | reference href => rw [plain] at href; cases href
  | _, _, _, .reference href htarget ha, hb => by
    cases hb with
    | scalar h => cases h
    | object plain => rw [plain] at href; cases href
    | reference href' htarget' hb =>
      obtain rfl := Option.some.inj (href.symm.trans href')
      obtain rfl := Except.ok.inj (htarget.symm.trans htarget')
      exact ha.unique hb

theorem ExpandsItems.unique {root : Json} : ∀ {items as bs : List Json},
    ExpandsItems root items as → ExpandsItems root items bs → as = bs
  | _, _, _, .nil, hb => by cases hb; rfl
  | _, _, _, .cons ha has, hb => by
    cases hb with
    | cons hb hbs => rw [ha.unique hb, has.unique hbs]

theorem ExpandsMembers.unique {root : Json} : ∀ {members as bs : List (String × Json)},
    ExpandsMembers root members as → ExpandsMembers root members bs → as = bs
  | _, _, _, .nil, hb => by cases hb; rfl
  | _, _, _, .cons ha has, hb => by
    cases hb with
    | cons hb hbs => rw [ha.unique hb, has.unique hbs]

end

/-! ## The shape of an expansion -/

theorem ExpandsItems.length_eq {root : Json} {items results : List Json}
    (h : ExpandsItems root items results) : results.length = items.length := by
  induction items generalizing results with
  | nil => cases h; rfl
  | cons item items ih =>
    cases h with
    | cons _ rest => rw [List.length_cons, List.length_cons, ih rest]

/-- Each item of the expansion is the expansion of the item in its place. -/
theorem ExpandsItems.getElem? {root item : Json} {items results : List Json}
    (h : ExpandsItems root items results) {i : Nat} (hi : items[i]? = some item) :
    ∃ result, results[i]? = some result ∧ Expands root item result := by
  induction items generalizing results i with
  | nil => cases hi
  | cons first items ih =>
    cases h with
    | @cons _ result _ _ hfirst rest =>
      cases i with
      | zero =>
        obtain rfl := Option.some.inj hi
        exact ⟨result, rfl, hfirst⟩
      | succ i => exact ih rest hi

theorem ExpandsMembers.keys_eq {root : Json} {members results : List (String × Json)}
    (h : ExpandsMembers root members results) : Keyed.keys results = Keyed.keys members := by
  induction members generalizing results with
  | nil => cases h; rfl
  | cons member members ih =>
    cases h with
    | cons _ rest => simp only [Keyed.keys, List.map_cons]; exact congrArg _ (ih rest)

/-- The member of a key expands to the member of that key. -/
theorem ExpandsMembers.get? {root value : Json} {members results : List (String × Json)}
    (h : ExpandsMembers root members results) {key : String}
    (hkey : Keyed.get? members key = some value) :
    ∃ result, Keyed.get? results key = some result ∧ Expands root value result := by
  induction members generalizing results with
  | nil => cases hkey
  | cons member members ih =>
    cases h with
    | @cons k _ result _ _ first rest =>
      simp only [Keyed.get?, List.lookup_cons] at hkey ih ⊢
      cases hk : key == k with
      | true =>
        rw [hk] at hkey
        obtain rfl := Option.some.inj hkey
        exact ⟨result, rfl, first⟩
      | false =>
        rw [hk] at hkey
        exact ih rest hkey

theorem ExpandsMembers.of_mem {root value : Json} {members results : List (String × Json)}
    (h : ExpandsMembers root members results) {key : String} (hmember : (key, value) ∈ members) :
    ∃ result, (key, result) ∈ results ∧ Expands root value result := by
  induction members generalizing results with
  | nil => cases hmember
  | cons member members ih =>
    cases h with
    | @cons k _ result _ _ first rest =>
      rcases List.mem_cons.1 hmember with heq | hmember
      · obtain ⟨rfl, rfl⟩ := Prod.mk.inj heq
        exact ⟨result, List.mem_cons_self, first⟩
      · obtain ⟨result', hresult', hexpands⟩ := ih rest hmember
        exact ⟨result', List.mem_cons_of_mem _ hresult', hexpands⟩

/-- A member of the expansion is the expansion of the member of that key. -/
theorem ExpandsMembers.of_get? {root result : Json} {members results : List (String × Json)}
    (h : ExpandsMembers root members results) {key : String}
    (hkey : Keyed.get? results key = some result) :
    ∃ value, Keyed.get? members key = some value ∧ Expands root value result := by
  cases hvalue : Keyed.get? members key with
  | some value =>
    obtain ⟨result', hresult', hexpands⟩ := h.get? hvalue
    obtain rfl := Option.some.inj (hkey.symm.trans hresult')
    exact ⟨value, rfl, hexpands⟩
  | none =>
    rw [Keyed.get?_eq_none_iff, ← h.keys_eq, ← Keyed.get?_eq_none_iff, hkey] at hvalue
    cases hvalue

/-- Only a scalar, an array or an object that is no reference keeps its kind; a reference
takes that of what it names. -/
theorem Expands.eq_of_isScalar {root value result : Json} (h : Expands root value result)
    (hvalue : value.isScalar = true) : result = value := by
  cases h with
  | scalar => rfl
  | array => cases hvalue
  | object => cases hvalue
  | reference => cases hvalue

theorem Expands.of_array {root result : Json} {items : List Json}
    (h : Expands root (.array items) result) :
    ∃ results, result = .array results ∧ ExpandsItems root items results := by
  cases h with
  | scalar h => cases h
  | array h => exact ⟨_, rfl, h⟩

theorem Expands.of_object {root result : Json} {members : List (String × Json)}
    (h : Expands root (.object members) result) (plain : referenceOf? members = none) :
    ∃ results, result = .object results ∧ ExpandsMembers root members results := by
  cases h with
  | scalar h => cases h
  | object _ h => exact ⟨_, rfl, h⟩
  | reference href => rw [plain] at href; cases href

theorem Expands.of_reference {root result : Json} {members : List (String × Json)}
    {reference : String} (h : Expands root (.object members) result)
    (href : referenceOf? members = some reference) :
    ∃ value, root.target reference = .ok value ∧ Expands root value result := by
  cases h with
  | scalar h => cases h
  | object plain => rw [plain] at href; cases href
  | reference href' htarget h =>
    obtain rfl := Option.some.inj (href.symm.trans href')
    exact ⟨_, htarget, h⟩

/-! ## Which references are met

A reference is met in a value when no other reference stands around it. Going on into
what it names, and into what is met there, gives all references that replacing the ones
in the value will ever look at. -/

mutual

/-- The outermost references of a value, in document order. -/
def outermost : Json → List String
  | .array items => outermostInItems items
  | .object members =>
    match referenceOf? members with
    | some reference => [reference]
    | none => outermostInMembers members
  | _ => []

def outermostInItems : List Json → List String
  | [] => []
  | item :: rest => outermost item ++ outermostInItems rest

def outermostInMembers : List (String × Json) → List String
  | [] => []
  | (_, value) :: rest => outermost value ++ outermostInMembers rest

end

theorem outermost_reference {members : List (String × Json)} {reference : String}
    (href : referenceOf? members = some reference) :
    outermost (.object members) = [reference] := by
  rw [outermost, href]

theorem outermost_object {members : List (String × Json)} (plain : referenceOf? members = none) :
    outermost (.object members) = outermostInMembers members := by
  rw [outermost, plain]

theorem outermost_scalar {value : Json} (h : value.isScalar = true) : outermost value = [] := by
  cases value with
  | array => cases h
  | object => cases h
  | _ => rw [outermost] <;> simp

/-- The references that can be reached from the given ones: these themselves, and the
outermost references of what a reached one names. -/
inductive Reached (root : Json) (starts : List String) : String → Prop where
  | start {reference : String} (h : reference ∈ starts) : Reached root starts reference
  | onward {reference next : String} {value : Json} (h : Reached root starts reference)
      (htarget : root.target reference = .ok value) (hnext : next ∈ value.outermost) :
      Reached root starts next

namespace Reached

variable {root : Json} {starts others : List String} {reference next : String} {value : Json}

theorem mono (h : Reached root starts reference) (hsub : starts ⊆ others) :
    Reached root others reference := by
  induction h with
  | start h => exact start (hsub h)
  | onward _ htarget hnext ih => exact onward ih htarget hnext

/-- What is reached from the target of a reached reference is reached. -/
theorem trans (h : Reached root starts reference) (htarget : root.target reference = .ok value)
    (hnext : Reached root value.outermost next) : Reached root starts next := by
  induction hnext with
  | start hnext => exact onward h htarget hnext
  | onward _ htarget hnext ih => exact onward ih htarget hnext

theorem of_nil (h : Reached root [] reference) : False := by
  induction h with
  | start h => cases h
  | onward _ _ _ ih => exact ih

/-- The walk to a reached reference has a first step. -/
theorem of_append (h : Reached root (starts ++ others) reference) :
    Reached root starts reference ∨ Reached root others reference := by
  induction h with
  | start h => exact (List.mem_append.1 h).imp start start
  | onward _ htarget hnext ih =>
    exact ih.imp (onward · htarget hnext) (onward · htarget hnext)

theorem of_singleton (h : Reached root [reference] next) :
    next = reference ∨
      ∃ value, root.target reference = .ok value ∧ Reached root value.outermost next := by
  induction h with
  | start h => exact Or.inl (List.mem_singleton.1 h)
  | onward _ htarget hnext ih =>
    rcases ih with rfl | ⟨first, hfirst, ih⟩
    · exact Or.inr ⟨_, htarget, start hnext⟩
    · exact Or.inr ⟨first, hfirst, onward ih htarget hnext⟩

end Reached

/-! ## What expands has no circles -/

/-- A reference that replacing can cope with: it names a value, that value expands, and
nothing there leads back to the reference. -/
def Sound (root : Json) (reference : String) : Prop :=
  ∃ value, root.target reference = .ok value ∧ (∃ result, Expands root value result) ∧
    ¬Reached root value.outermost reference

mutual

/-- **Every reference met by an expansion is sound.** The induction is on the derivation.
If something below a reference led back to it, the reference would be among those that
the induction hypothesis calls sound, and a sound reference does not lead back. -/
theorem Expands.sound {root : Json} : ∀ {value result : Json}, Expands root value result →
    ∀ {reference : String}, Reached root value.outermost reference → Sound root reference
  | _, _, .scalar hscalar, _, hr => by
    rw [outermost_scalar hscalar] at hr
    exact hr.of_nil.elim
  | _, _, .array h, _, hr => by
    rw [outermost] at hr
    exact h.sound hr
  | _, _, .object plain h, _, hr => by
    rw [outermost_object plain] at hr
    exact h.sound hr
  | _, _, .reference href htarget h, r, hr => by
    rw [outermost_reference href] at hr
    rcases hr.of_singleton with rfl | ⟨value, hvalue, hr⟩
    · refine ⟨_, htarget, ⟨_, h⟩, fun hback => ?_⟩
      obtain ⟨value, hvalue, -, hnot⟩ := h.sound hback
      obtain rfl := Except.ok.inj (htarget.symm.trans hvalue)
      exact hnot hback
    · obtain rfl := Except.ok.inj (htarget.symm.trans hvalue)
      exact h.sound hr

theorem ExpandsItems.sound {root : Json} : ∀ {items results : List Json},
    ExpandsItems root items results →
      ∀ {reference : String}, Reached root (outermostInItems items) reference →
        Sound root reference
  | _, _, .nil, _, hr => hr.of_nil.elim
  | _, _, .cons first rest, _, hr => by
    rw [outermostInItems] at hr
    rcases hr.of_append with hr | hr
    · exact first.sound hr
    · exact rest.sound hr

theorem ExpandsMembers.sound {root : Json} : ∀ {members results : List (String × Json)},
    ExpandsMembers root members results →
      ∀ {reference : String}, Reached root (outermostInMembers members) reference →
        Sound root reference
  | _, _, .nil, _, hr => hr.of_nil.elim
  | _, _, .cons first rest, _, hr => by
    rw [outermostInMembers] at hr
    rcases hr.of_append with hr | hr
    · exact first.sound hr
    · exact rest.sound hr

end

end SchemaForms.Json
