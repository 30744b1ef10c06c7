/-
Replacing references is substitution: the result has, in every place outside references,
what the root has there, and in the place of a reference the one value that this
reference stands for anywhere.

A place is a list of tokens, as a pointer has them. `reach?` follows them down from a
value and refuses to step into a reference; a reference may be the end of the way, for
there the result has something to say, but below it the root and its result have no
places in common.
-/
import SchemaForms.Proofs.Reference.Walk

set_option autoImplicit false

namespace SchemaForms.Json

/-! ## Places outside references -/

/-- Is the value a reference? -/
def isReference : Json → Bool
  | object members => (referenceOf? members).isSome
  | _ => false

/-- Follows tokens down from a value without a step into a reference. -/
def reach? : List (List Char) → Json → Option Json
  | [], value => some value
  | token :: rest, value =>
    if value.isReference then none
    else
      match child? token value with
      | some below => reach? rest below
      | none => none

theorem referenceOf?_of_not_isReference {members : List (String × Json)}
    (h : (object members).isReference = false) : referenceOf? members = none := by
  rwa [isReference, Option.isSome_eq_false_iff, Option.isNone_iff_eq_none] at h

/-- A step that the value allows is a step that its expansion allows. -/
theorem Expands.child? {root value result below : Json} (h : Expands root value result)
    (hplain : value.isReference = false) {token : List Char}
    (hbelow : Json.child? token value = some below) :
    ∃ result', Json.child? token result = some result' ∧ Expands root below result' := by
  cases value with
  | array items =>
    obtain ⟨results, rfl, hitems⟩ := h.of_array
    simp only [Json.child?] at hbelow ⊢
    split at hbelow
    · rename_i index hindex
      obtain ⟨result', hresult', hexpands⟩ := hitems.getElem? hbelow
      exact ⟨result', hresult', hexpands⟩
    · cases hbelow
  | object members =>
    obtain ⟨results, rfl, hmembers⟩ := h.of_object (referenceOf?_of_not_isReference hplain)
    simp only [Json.child?] at hbelow ⊢
    exact hmembers.get? hbelow
  | null => simp only [Json.child?] at hbelow; cases hbelow
  | bool => simp only [Json.child?] at hbelow; cases hbelow
  | number => simp only [Json.child?] at hbelow; cases hbelow
  | string => simp only [Json.child?] at hbelow; cases hbelow

/-- What is reached in a value has its expansion in the same place. -/
theorem Expands.reach? {root value result below : Json} (h : Expands root value result)
    {place : List (List Char)} (hbelow : Json.reach? place value = some below) :
    ∃ result', descend? place result = some result' ∧ Expands root below result' := by
  induction place generalizing value result with
  | nil =>
    obtain rfl := Option.some.inj hbelow
    exact ⟨result, rfl, h⟩
  | cons token rest ih =>
    rw [Json.reach?] at hbelow
    split at hbelow
    · cases hbelow
    · rename_i hplain
      split at hbelow
      · rename_i next hnext
        obtain ⟨result', hresult', hexpands⟩ := h.child? (Bool.not_eq_true _ ▸ hplain) hnext
        obtain ⟨final, hfinal, hexpands⟩ := ih hexpands hbelow
        exact ⟨final, by rw [descend?, hresult']; exact hfinal, hexpands⟩
      · cases hbelow

/-! ## What stands in the place of a reference -/

/-- The value that a reference is replaced by: what it names, expanded. From the outside
the walk finds it; from inside of other references it finds it or fails. -/
structure ReplacedBy (root : Json) (reference : String) (target result : Json) : Prop where
  target_eq : root.target reference = .ok target
  inlined : ∀ known, inline root [] target known = .ok result
  /-- The chain can turn the result into an error, but not into another result. -/
  anywhere : ∀ chain known, inline root chain target known = .ok result ∨
    ∃ e, inline root chain target known = .error e
  /-- Every object that is this reference stands for the same value, whatever its other
  members are and whatever references the walk is inside of. -/
  siblings : ∀ members, referenceOf? members = some reference → ∀ chain known,
    inline root chain (.object members) known = .ok result ∨
      ∃ e, inline root chain (.object members) known = .error e

theorem ReplacedBy.of_expands {root target result : Json} {reference : String}
    (htarget : root.target reference = .ok target) (h : Expands root target result) :
    ReplacedBy root reference target result where
  target_eq := htarget
  inlined := h.inline_nil
  anywhere := h.inline_or_error
  siblings _ href := (Expands.reference href htarget h).inline_or_error

/-- What the result holds in the place of a value of the root. -/
structure Substituted (root out value result : Json) : Prop where
  scalar : value.isScalar = true → result = value
  array : ∀ items, value = .array items →
    ∃ results, result = .array results ∧ results.length = items.length
  object : ∀ members, value = .object members → referenceOf? members = none →
    ∃ results, result = .object results ∧ Keyed.keys results = Keyed.keys members
  /-- A reference is replaced by the value it stands for, and if that value is reached in
  the root, its place in the result holds the same. -/
  reference : ∀ members reference, value = .object members →
    referenceOf? members = some reference →
      ∃ target, ReplacedBy root reference target result ∧
        ∀ place, reach? place root = some target → descend? place out = some result

/-- **Replacing references is substitution.** If the references of a root can be
replaced, then whatever is reached outside references has its counterpart in the result:
a scalar unchanged, an array with as many items, an object that is no reference with the
same keys in order, and a reference replaced by the one value it stands for everywhere. -/
theorem inlineReferences_substitutes {root out : Json} (h : root.inlineReferences = .ok out)
    {place : List (List Char)} {value : Json} (hplace : reach? place root = some value) :
    ∃ result, descend? place out = some result ∧ Substituted root out value result := by
  have hroot : Expands root root out := expands_of_inline h
  obtain ⟨result, hresult, hvalue⟩ := hroot.reach? hplace
  refine ⟨result, hresult, ⟨hvalue.eq_of_isScalar, ?_, ?_, ?_⟩⟩
  · rintro items rfl
    obtain ⟨results, rfl, hitems⟩ := hvalue.of_array
    exact ⟨results, rfl, hitems.length_eq⟩
  · rintro members rfl hplain
    obtain ⟨results, rfl, hmembers⟩ := hvalue.of_object hplain
    exact ⟨results, rfl, hmembers.keys_eq⟩
  · rintro members reference rfl href
    obtain ⟨target, htarget, hexpands⟩ := hvalue.of_reference href
    refine ⟨target, .of_expands htarget hexpands, fun other hother => ?_⟩
    obtain ⟨result', hresult', hexpands'⟩ := hroot.reach? hother
    rw [hexpands.unique hexpands']
    exact hresult'

/-- A reference in an array, with another member beside it, to a key with a slash. -/
def referring : Json :=
  .object [("a", .array [.object [("note", .null), ("$ref", .string "#/b~1c")]]),
    ("b/c", .object [("d", .bool true)])]

/-- The same with the reference replaced. -/
def referred : Json :=
  .object [("a", .array [.object [("d", .bool true)]]), ("b/c", .object [("d", .bool true)])]

theorem inlineReferences_substitutes_referring :
    referring.inlineReferences = .ok referred ∧
    reach? [['a'], ['0']] referring =
      some (.object [("note", .null), ("$ref", .string "#/b~1c")]) ∧
    ∃ result, descend? [['a'], ['0']] referred = some result ∧
      Substituted referring referred
        (.object [("note", .null), ("$ref", .string "#/b~1c")]) result := by
  have hcopy : Expands referring (.object [("d", .bool true)]) (.object [("d", .bool true)]) :=
    .object rfl (.cons (.scalar rfl) .nil)
  have hitem : Expands referring (.object [("note", .null), ("$ref", .string "#/b~1c")])
      (.object [("d", .bool true)]) := .reference rfl rfl hcopy
  have hexpands : Expands referring referring referred :=
    .object rfl (.cons (.array (.cons hitem .nil)) (.cons hcopy .nil))
  have hout : referring.inlineReferences = .ok referred := hexpands.inline_nil _
  exact ⟨hout, rfl, inlineReferences_substitutes hout rfl⟩

end SchemaForms.Json
