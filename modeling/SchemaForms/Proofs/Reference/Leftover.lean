/-
References that replacing leaves behind, and when there are none.

One would expect that a value has no references left once they have been replaced, and
that replacing them again changes nothing. Both can fail, and for one reason only: an
object whose `$ref` holds no text is no reference, so its members are gone into one by
one, and what stands under `$ref` may become a text by being replaced itself
(`doubled_leaves_reference`).

Every part of a result is the expansion of some value that the walk has come by and that
is no reference (`Expands.source`). Two things follow. A reference in the result points
back at an object as above. And a value that is its own expansion has no references at
all: each of its parts has a source among its parts, different parts have different
sources because an expansion is unique, so by counting every part is a source, and no
source is a reference (`ReferenceFree.of_fixed`).
-/
import Mathlib.Data.Set.Finite.List
import SchemaForms.Proofs.Reference.Circle
import SchemaForms.Proofs.Reference.Substitution

set_option autoImplicit false

namespace SchemaForms.Json

variable {root : Json}

/-! ## Parts of a value -/

mutual

/-- The value and everything inside it, from the outside in. -/
def subvalues : Json → List Json
  | .array items => .array items :: subvaluesOfItems items
  | .object members => .object members :: subvaluesOfMembers members
  | scalar => [scalar]

def subvaluesOfItems : List Json → List Json
  | [] => []
  | item :: rest => subvalues item ++ subvaluesOfItems rest

def subvaluesOfMembers : List (String × Json) → List Json
  | [] => []
  | (_, value) :: rest => subvalues value ++ subvaluesOfMembers rest

end

/-- No object in the value has a text under `$ref`. -/
def ReferenceFree (value : Json) : Prop :=
  ∀ members, .object members ∈ value.subvalues →
    ∀ text, Keyed.get? members "$ref" ≠ some (.string text)

theorem subvalues_of_isScalar {value : Json} (h : value.isScalar = true) :
    value.subvalues = [value] := by
  cases value with
  | array => cases h
  | object => cases h
  | _ => rw [subvalues] <;> simp

theorem mem_subvalues_self (value : Json) : value ∈ value.subvalues := by
  cases value <;> simp [subvalues]

theorem mem_subvaluesOfItems {items : List Json} {value : Json} :
    value ∈ subvaluesOfItems items ↔ ∃ item ∈ items, value ∈ item.subvalues := by
  induction items with
  | nil => simp [subvaluesOfItems]
  | cons first rest ih => simp [subvaluesOfItems, ih]

theorem mem_subvaluesOfMembers {members : List (String × Json)} {value : Json} :
    value ∈ subvaluesOfMembers members ↔
      ∃ key inner, (key, inner) ∈ members ∧ value ∈ inner.subvalues := by
  induction members with
  | nil => simp [subvaluesOfMembers]
  | cons first rest ih =>
    obtain ⟨key, inner⟩ := first
    simp only [subvaluesOfMembers, List.mem_append, ih, List.mem_cons, Prod.mk.injEq]
    constructor
    · rintro (h | ⟨key', inner', hmem, h⟩)
      · exact ⟨key, inner, Or.inl ⟨rfl, rfl⟩, h⟩
      · exact ⟨key', inner', Or.inr hmem, h⟩
    · rintro ⟨key', inner', ⟨rfl, rfl⟩ | hmem, h⟩
      · exact Or.inl h
      · exact Or.inr ⟨key', inner', hmem, h⟩

theorem mem_subvalues_item {items : List Json} {item : Json} (h : item ∈ items) :
    item ∈ (array items).subvalues := by
  rw [subvalues]
  exact List.mem_cons_of_mem _ (mem_subvaluesOfItems.2 ⟨item, h, mem_subvalues_self item⟩)

theorem mem_subvalues_member {members : List (String × Json)} {key : String} {value : Json}
    (h : (key, value) ∈ members) : value ∈ (object members).subvalues := by
  rw [subvalues]
  exact List.mem_cons_of_mem _ (mem_subvaluesOfMembers.2 ⟨key, value, h, mem_subvalues_self value⟩)

mutual

/-- A part of a part is a part. -/
theorem subvalues_trans {a b : Json} : ∀ {value : Json},
    a ∈ b.subvalues → b ∈ value.subvalues → a ∈ value.subvalues
  | .array items, hab, hb => by
    rw [subvalues, List.mem_cons] at hb
    rcases hb with rfl | hb
    · exact hab
    · rw [subvalues]
      exact List.mem_cons_of_mem _ (subvaluesOfItems_trans hab hb)
  | .object members, hab, hb => by
    rw [subvalues, List.mem_cons] at hb
    rcases hb with rfl | hb
    · exact hab
    · rw [subvalues]
      exact List.mem_cons_of_mem _ (subvaluesOfMembers_trans hab hb)
  | .null, hab, hb => by obtain rfl := List.mem_singleton.1 hb; exact hab
  | .bool _, hab, hb => by obtain rfl := List.mem_singleton.1 hb; exact hab
  | .number _, hab, hb => by obtain rfl := List.mem_singleton.1 hb; exact hab
  | .string _, hab, hb => by obtain rfl := List.mem_singleton.1 hb; exact hab

theorem subvaluesOfItems_trans {a b : Json} : ∀ {items : List Json},
    a ∈ b.subvalues → b ∈ subvaluesOfItems items → a ∈ subvaluesOfItems items
  | [], _, hb => by cases hb
  | first :: rest, hab, hb => by
    rw [subvaluesOfItems, List.mem_append] at hb ⊢
    exact hb.imp (subvalues_trans hab) (subvaluesOfItems_trans hab)

theorem subvaluesOfMembers_trans {a b : Json} : ∀ {members : List (String × Json)},
    a ∈ b.subvalues → b ∈ subvaluesOfMembers members → a ∈ subvaluesOfMembers members
  | [], _, hb => by cases hb
  | (_, first) :: rest, hab, hb => by
    rw [subvaluesOfMembers, List.mem_append] at hb ⊢
    exact hb.imp (subvalues_trans hab) (subvaluesOfMembers_trans hab)

end

/-! ## What the walk comes by -/

/-- The values that replacing the references of a start comes by: it goes from an array
to its items, from an object to the values of its members, and from a reference not to
its members but to what it names. -/
inductive Passed (root start : Json) : Json → Prop where
  | start : Passed root start start
  | item {items : List Json} {item : Json} (h : Passed root start (.array items))
      (hitem : item ∈ items) : Passed root start item
  | member {members : List (String × Json)} {key : String} {value : Json}
      (h : Passed root start (.object members)) (plain : referenceOf? members = none)
      (hmember : (key, value) ∈ members) : Passed root start value
  | target {members : List (String × Json)} {reference : String} {value : Json}
      (h : Passed root start (.object members)) (href : referenceOf? members = some reference)
      (htarget : root.target reference = .ok value) : Passed root start value

theorem Passed.trans {a b c : Json} (hab : Passed root a b) (hbc : Passed root b c) :
    Passed root a c := by
  induction hbc with
  | start => exact hab
  | item _ hitem ih => exact .item ih hitem
  | member _ plain hmember ih => exact .member ih plain hmember
  | target _ href htarget ih => exact .target ih href htarget

theorem mem_subvalues_of_child? {token : List Char} {value below : Json}
    (h : child? token value = some below) : below ∈ value.subvalues := by
  cases value with
  | array items =>
    simp only [child?] at h
    split at h
    · exact mem_subvalues_item (List.mem_of_getElem? h)
    · cases h
  | object members =>
    simp only [child?] at h
    exact mem_subvalues_member (Keyed.mem_of_get? h)
  | null | bool | number | string => simp [child?] at h

theorem mem_subvalues_of_descend? {tokens : List (List Char)} {value below : Json}
    (h : descend? tokens value = some below) : below ∈ value.subvalues := by
  induction tokens generalizing value with
  | nil =>
    obtain rfl := Option.some.inj h
    exact mem_subvalues_self value
  | cons token rest ih =>
    simp only [descend?] at h
    split at h
    · rename_i next hnext
      exact subvalues_trans (ih h) (mem_subvalues_of_child? hnext)
    · cases h

/-- What a reference names is a part of the root. -/
theorem mem_subvalues_of_target {reference : String} {value : Json}
    (h : root.target reference = .ok value) : value ∈ root.subvalues := by
  obtain ⟨pointer, -, hpointer⟩ := target_eq_ok_iff.1 h
  unfold pointer? at hpointer
  split at hpointer
  · exact mem_subvalues_of_descend? hpointer
  · cases hpointer

/-- The walk stays inside the root. -/
theorem Passed.mem_subvalues {value : Json} (h : Passed root root value) :
    value ∈ root.subvalues := by
  induction h with
  | start => exact mem_subvalues_self root
  | item _ hitem ih => exact subvalues_trans (mem_subvalues_item hitem) ih
  | member _ _ hmember ih => exact subvalues_trans (mem_subvalues_member hmember) ih
  | target _ _ htarget _ => exact mem_subvalues_of_target htarget

/-! ## Where the parts of a result come from -/

/-- The value has the part as its expansion and is no reference. -/
structure Source (root value part : Json) : Prop where
  plain : value.isReference = false
  expands : Expands root value part

mutual

/-- **Every part of a result has a source that the walk has come by.** The induction is on
the derivation; a reference is left for what it names before anything is made. -/
theorem Expands.source {part : Json} : ∀ {value result : Json}, Expands root value result →
    part ∈ result.subvalues → ∃ source, Passed root value source ∧ Source root source part
  | value, _, .scalar hscalar, hpart => by
    rw [subvalues_of_isScalar hscalar, List.mem_singleton] at hpart
    subst hpart
    refine ⟨part, .start, ?_, .scalar hscalar⟩
    cases part with
    | object => cases hscalar
    | _ => rfl
  | .array items, _, .array h, hpart => by
    rw [subvalues, List.mem_cons] at hpart
    rcases hpart with rfl | hpart
    · exact ⟨.array items, .start, rfl, .array h⟩
    · obtain ⟨item, hitem, source, hpassed, hsource⟩ := h.source hpart
      exact ⟨source, (Passed.start.item hitem).trans hpassed, hsource⟩
  | .object members, _, .object plain h, hpart => by
    rw [subvalues, List.mem_cons] at hpart
    rcases hpart with rfl | hpart
    · refine ⟨.object members, .start, ?_, .object plain h⟩
      rw [isReference, plain]
      rfl
    · obtain ⟨key, value, hmember, source, hpassed, hsource⟩ := h.source hpart
      exact ⟨source, (Passed.start.member plain hmember).trans hpassed, hsource⟩
  | _, _, .reference href htarget h, hpart => by
    obtain ⟨source, hpassed, hsource⟩ := h.source hpart
    exact ⟨source, (Passed.start.target href htarget).trans hpassed, hsource⟩

theorem ExpandsItems.source {part : Json} : ∀ {items results : List Json},
    ExpandsItems root items results → part ∈ subvaluesOfItems results →
      ∃ item ∈ items, ∃ source, Passed root item source ∧ Source root source part
  | _, _, .nil, hpart => by cases hpart
  | item :: _, _, .cons first rest, hpart => by
    rw [subvaluesOfItems, List.mem_append] at hpart
    rcases hpart with hpart | hpart
    · exact ⟨item, List.mem_cons_self, first.source hpart⟩
    · obtain ⟨other, hother, hsource⟩ := rest.source hpart
      exact ⟨other, List.mem_cons_of_mem _ hother, hsource⟩

theorem ExpandsMembers.source {part : Json} : ∀ {members results : List (String × Json)},
    ExpandsMembers root members results → part ∈ subvaluesOfMembers results →
      ∃ key value, (key, value) ∈ members ∧
        ∃ source, Passed root value source ∧ Source root source part
  | _, _, .nil, hpart => by cases hpart
  | (key, value) :: _, _, .cons first rest, hpart => by
    rw [subvaluesOfMembers, List.mem_append] at hpart
    rcases hpart with hpart | hpart
    · exact ⟨key, value, List.mem_cons_self, first.source hpart⟩
    · obtain ⟨key', value', hother, hsource⟩ := rest.source hpart
      exact ⟨key', value', List.mem_cons_of_mem _ hother, hsource⟩

end

/-! ## Values that are their own expansion -/

theorem referenceOf?_eq_some_iff {members : List (String × Json)} {text : String} :
    referenceOf? members = some text ↔ Keyed.get? members "$ref" = some (.string text) := by
  unfold referenceOf?
  split <;> simp_all

theorem referenceOf?_of_referenceFree {value : Json} (h : value.ReferenceFree)
    {members : List (String × Json)} (hmem : .object members ∈ value.subvalues) :
    referenceOf? members = none := by
  cases href : referenceOf? members with
  | none => rfl
  | some text => exact absurd (referenceOf?_eq_some_iff.1 href) (h members hmem text)

mutual

/-- A value without references is its own expansion. -/
theorem expands_self : ∀ {value : Json}, value.ReferenceFree → Expands root value value
  | .array items, h => by
    refine .array (expandsItems_self fun members hmem => h members ?_)
    rw [subvalues]
    exact List.mem_cons_of_mem _ hmem
  | .object members, h => by
    refine .object (referenceOf?_of_referenceFree h (mem_subvalues_self _))
      (expandsMembers_self fun inner hmem => h inner ?_)
    rw [subvalues]
    exact List.mem_cons_of_mem _ hmem
  | .null, _ => .scalar rfl
  | .bool _, _ => .scalar rfl
  | .number _, _ => .scalar rfl
  | .string _, _ => .scalar rfl

theorem expandsItems_self : ∀ {items : List Json},
    (∀ members, .object members ∈ subvaluesOfItems items →
      ∀ text, Keyed.get? members "$ref" ≠ some (.string text)) → ExpandsItems root items items
  | [], _ => .nil
  | _ :: _, h => by
    refine .cons (expands_self fun members hmem => h members ?_)
      (expandsItems_self fun members hmem => h members ?_)
    · rw [subvaluesOfItems]
      exact List.mem_append_left _ hmem
    · rw [subvaluesOfItems]
      exact List.mem_append_right _ hmem

theorem expandsMembers_self : ∀ {members : List (String × Json)},
    (∀ inner, .object inner ∈ subvaluesOfMembers members →
      ∀ text, Keyed.get? inner "$ref" ≠ some (.string text)) → ExpandsMembers root members members
  | [], _ => .nil
  | (_, _) :: _, h => by
    refine .cons (expands_self fun inner hmem => h inner ?_)
      (expandsMembers_self fun inner hmem => h inner ?_)
    · rw [subvaluesOfMembers]
      exact List.mem_append_left _ hmem
    · rw [subvaluesOfMembers]
      exact List.mem_append_right _ hmem

end

/-- **A value that is its own expansion has no references**, not even in places that the
walk never comes by. Taking a part to a source of it is an injection of the finitely many
parts into themselves, so every part is a source. -/
theorem ReferenceFree.of_fixed (h : Expands root root root) : root.ReferenceFree := by
  have hsource : ∀ part : {part // part ∈ root.subvalues},
      ∃ source : {part // part ∈ root.subvalues}, Source root source.1 part.1 := by
    rintro ⟨part, hpart⟩
    obtain ⟨source, hpassed, hsource⟩ := h.source hpart
    exact ⟨⟨source, hpassed.mem_subvalues⟩, hsource⟩
  choose source hsource using hsource
  -- A source has one expansion only, so parts with the same source are the same.
  have hinjective : Function.Injective source := by
    intro a b hab
    apply Subtype.ext
    exact (hsource a).expands.unique (hab ▸ (hsource b).expands)
  have : Finite {part // part ∈ root.subvalues} := (List.finite_toSet root.subvalues).to_subtype
  -- A reference among the parts would be a source as well.
  intro members hmem text hget
  obtain ⟨part, hpart⟩ := Finite.surjective_of_injective hinjective ⟨.object members, hmem⟩
  have hplain := (hsource part).plain
  rw [hpart, isReference, referenceOf?_eq_some_iff.2 hget] at hplain
  cases hplain

/-! ## When a result has no references -/

/-- The expansion of a value that the walk comes by is a part of the result. -/
theorem Passed.expands {value result passed : Json} (hvalue : Expands root value result)
    (h : Passed root value passed) :
    ∃ part ∈ result.subvalues, Expands root passed part := by
  induction h with
  | start => exact ⟨result, mem_subvalues_self result, hvalue⟩
  | item _ hitem ih =>
    obtain ⟨part, hpart, harray⟩ := ih
    obtain ⟨results, rfl, hitems⟩ := harray.of_array
    obtain ⟨index, hindex⟩ := List.mem_iff_getElem?.1 hitem
    obtain ⟨inner, hinner, hexpands⟩ := hitems.getElem? hindex
    have hinner := mem_subvalues_item (List.mem_of_getElem? hinner)
    exact ⟨inner, subvalues_trans hinner hpart, hexpands⟩
  | member _ plain hmember ih =>
    obtain ⟨part, hpart, hobject⟩ := ih
    obtain ⟨results, rfl, hmembers⟩ := hobject.of_object plain
    obtain ⟨inner, hinner, hexpands⟩ := hmembers.of_mem hmember
    exact ⟨inner, subvalues_trans (mem_subvalues_member hinner) hpart, hexpands⟩
  | target _ href htarget ih =>
    obtain ⟨part, hpart, hreference⟩ := ih
    obtain ⟨target, htarget', hexpands⟩ := hreference.of_reference href
    obtain rfl := Except.ok.inj (htarget.symm.trans htarget')
    exact ⟨part, hpart, hexpands⟩

/-- An object in the result comes from an object that is no reference. -/
theorem Source.of_object {value : Json} {results : List (String × Json)}
    (h : Source root value (.object results)) :
    ∃ members, value = .object members ∧ referenceOf? members = none ∧
      ExpandsMembers root members results := by
  obtain ⟨hplain, hexpands⟩ := h
  cases hexpands with
  | scalar hscalar => cases hscalar
  | object plain hmembers => exact ⟨_, rfl, plain, hmembers⟩
  | reference href =>
    rw [isReference, href] at hplain
    cases hplain

/-- Only a text and a reference expand to a text. -/
theorem Expands.to_string {value : Json} {text : String} (h : Expands root value (.string text)) :
    value = .string text ∨
      ∃ members reference, value = .object members ∧ referenceOf? members = some reference := by
  cases h with
  | scalar => exact Or.inl rfl
  | reference href => exact Or.inr ⟨_, _, rfl, href⟩

/-- **What replacing references leaves behind.** Replacing the references of a result
again changes nothing exactly when the result has none. And it has none exactly when no
object that the walk goes into has, under `$ref`, something that expands to a text; this
is the case for every root in which no reference stands directly under a `$ref`. -/
theorem inlineReferences_again_iff {out : Json} (h : root.inlineReferences = .ok out) :
    (out.inlineReferences = .ok out ↔ out.ReferenceFree) ∧
    (out.ReferenceFree ↔
      ∀ members, Passed root root (.object members) → referenceOf? members = none →
        ∀ value text, Keyed.get? members "$ref" = some value →
          ¬Expands root value (.string text)) ∧
    ((∀ members inner, .object members ∈ root.subvalues →
        Keyed.get? members "$ref" = some (.object inner) → referenceOf? inner = none) →
      out.ReferenceFree) := by
  have hroot : Expands root root out := expands_of_inline h
  have hiff : out.ReferenceFree ↔
      ∀ members, Passed root root (.object members) → referenceOf? members = none →
        ∀ value text, Keyed.get? members "$ref" = some value →
          ¬Expands root value (.string text) := by
    constructor
    · -- What the object expands to is in the result, with the text under `$ref`.
      intro hfree members hpassed plain value text hvalue hexpands
      obtain ⟨part, hpart, hobject⟩ := hpassed.expands hroot
      obtain ⟨results, rfl, hmembers⟩ := hobject.of_object plain
      obtain ⟨result, hresult, hexpands'⟩ := hmembers.get? hvalue
      obtain rfl := hexpands.unique hexpands'
      exact hfree results hpart text hresult
    · -- A reference in the result has a source, which has no text under `$ref` yet.
      intro hpassed results hmem text hget
      obtain ⟨source, hsource, hobject⟩ := hroot.source hmem
      obtain ⟨members, rfl, plain, hmembers⟩ := hobject.of_object
      obtain ⟨value, hvalue, hexpands⟩ := hmembers.of_get? hget
      exact hpassed members hsource plain value text hvalue hexpands
  refine ⟨⟨fun hagain => .of_fixed (expands_of_inline hagain), fun hfree => ?_⟩, hiff, ?_⟩
  · exact (expands_self hfree).inline_nil _
  · intro hdirect
    rw [hiff]
    intro members hpassed plain value text hvalue hexpands
    rcases hexpands.to_string with rfl | ⟨inner, reference, rfl, href⟩
    · -- A text under `$ref` makes the object a reference.
      rw [referenceOf?_eq_some_iff.2 hvalue] at plain
      cases plain
    · rw [hdirect members inner hpassed.mem_subvalues hvalue] at href
      cases href

/-- A reference under `$ref` that stands for an object. -/
def wrapped : Json :=
  .object [("$ref", .object [("$ref", .string "#/kind")]), ("kind", .object [("id", .null)])]

/-- The same with the reference replaced. -/
def unwrapped : Json :=
  .object [("$ref", .object [("id", .null)]), ("kind", .object [("id", .null)])]

theorem inlineReferences_again_iff_wrapped :
    wrapped.inlineReferences = .ok unwrapped ∧ unwrapped.ReferenceFree ∧
      unwrapped.inlineReferences = .ok unwrapped := by
  have hkind : Expands wrapped (.object [("id", .null)]) (.object [("id", .null)]) :=
    .object rfl (.cons (.scalar rfl) .nil)
  have hexpands : Expands wrapped wrapped unwrapped :=
    .object rfl (.cons (.reference rfl rfl hkind) (.cons hkind .nil))
  have hout : wrapped.inlineReferences = .ok unwrapped := hexpands.inline_nil _
  have hagain : unwrapped.inlineReferences = .ok unwrapped := by
    have hkind' : Expands unwrapped (.object [("id", .null)]) (.object [("id", .null)]) :=
      .object rfl (.cons (.scalar rfl) .nil)
    have hexpands' : Expands unwrapped unwrapped unwrapped :=
      .object rfl (.cons hkind' (.cons hkind' .nil))
    exact hexpands'.inline_nil _
  exact ⟨hout, (inlineReferences_again_iff hout).1.1 hagain, hagain⟩

/-- A reference under `$ref` that stands for a text, which is itself a reference in form. -/
def doubled : Json :=
  .object [("a", .object [("$ref", .object [("$ref", .string "#/b")])]), ("b", .string "#/b")]

/-- The same with its references replaced once: one is left. -/
def doubledOnce : Json :=
  .object [("a", .object [("$ref", .string "#/b")]), ("b", .string "#/b")]

/-- A text that comes to stand under `$ref` makes a reference, and replacing it once more
gives another value. -/
theorem doubled_leaves_reference :
    doubled.inlineReferences = .ok doubledOnce ∧ ¬doubledOnce.ReferenceFree ∧
      ∃ twice, doubledOnce.inlineReferences = .ok twice ∧ twice ≠ doubledOnce := by
  have htext : ∀ root, Expands root (.string "#/b") (.string "#/b") := fun _ => .scalar rfl
  have honce : Expands doubled doubled doubledOnce :=
    .object rfl (.cons (.object rfl (.cons (.reference rfl rfl (htext _)) .nil))
      (.cons (htext _) .nil))
  have htwice : Expands doubledOnce doubledOnce
      (.object [("a", .string "#/b"), ("b", .string "#/b")]) :=
    .object rfl (.cons (.reference rfl rfl (htext _)) (.cons (htext _) .nil))
  refine ⟨honce.inline_nil _, fun hfree => ?_, _, htwice.inline_nil _, by simp [doubledOnce]⟩
  have hmem : .object [("$ref", .string "#/b")] ∈ doubledOnce.subvalues := by
    simp [doubledOnce, subvalues, subvaluesOfMembers]
  exact hfree _ hmem "#/b" rfl

end SchemaForms.Json
