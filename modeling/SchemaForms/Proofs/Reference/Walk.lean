/-
The walk that replaces references, against the relation that says what replacing means.

`inline` is unfolded here and nowhere else. Its equations come first, free of the proof
that travels with it. Then one induction over the walk itself says what either outcome
is worth (`inline_right`): a value is the expansion, and an error points at a reference
that is really met and really at fault. In the other direction an expansion is found
from any chain that holds none of the references met (`Expands.inline_eq_ok`). Together
these make the chain invisible in results: it can refuse, but not change.
-/
import SchemaForms.Proofs.Reference.Expansion

set_option autoImplicit false

namespace SchemaForms.Json

variable {root : Json} {chain : List String}

/-! ## The equations of the walk -/

theorem inItems_of_array {items : List Json}
    (known : references (.array items) ⊆ references root) :
    referencesInItems items ⊆ references root := by
  rwa [references] at known

theorem inMembers_of_object {members : List (String × Json)}
    (known : references (.object members) ⊆ references root) :
    referencesInMembers members ⊆ references root := by
  rw [references] at known
  exact fun _ hr => known (List.mem_append_right _ hr)

theorem inline_array {items : List Json} (known : references (.array items) ⊆ references root) :
    inline root chain (.array items) known =
      match inlineItems root chain items (inItems_of_array known) with
      | .ok results => .ok (.array results)
      | .error e => .error e := by
  unfold inline
  rfl

theorem inline_object {members : List (String × Json)} (plain : referenceOf? members = none)
    (known : references (.object members) ⊆ references root) :
    inline root chain (.object members) known =
      match inlineMembers root chain members (inMembers_of_object known) with
      | .ok results => .ok (.object results)
      | .error e => .error e := by
  rw [inline]
  split
  · rename_i href
    rw [plain] at href
    cases href
  · rfl

theorem inline_seen {members : List (String × Json)} {reference : String}
    (href : referenceOf? members = some reference) (seen : reference ∈ chain)
    (known : references (.object members) ⊆ references root) :
    inline root chain (.object members) known = .error (.cyclic (chain ++ [reference])) := by
  rw [inline]
  split
  · rename_i href'
    obtain rfl := Option.some.inj (href.symm.trans href')
    rw [dif_pos seen]
  · rename_i plain
    rw [href] at plain
    cases plain

theorem inline_reference {members : List (String × Json)} {reference : String} {value : Json}
    (href : referenceOf? members = some reference) (new : reference ∉ chain)
    (htarget : root.target reference = .ok value)
    (known : references (.object members) ⊆ references root) :
    inline root chain (.object members) known =
      inline root (chain ++ [reference]) value (references_target htarget) := by
  rw [inline]
  split
  · rename_i href'
    obtain rfl := Option.some.inj (href.symm.trans href')
    rw [dif_neg new]
    split
    · rename_i htarget'
      obtain rfl := Except.ok.inj (htarget.symm.trans htarget')
      rfl
    · rename_i htarget'
      rw [htarget] at htarget'
      cases htarget'
  · rename_i plain
    rw [href] at plain
    cases plain

theorem inline_unresolved {members : List (String × Json)} {reference : String}
    {e : ReferenceError} (href : referenceOf? members = some reference) (new : reference ∉ chain)
    (htarget : root.target reference = .error e)
    (known : references (.object members) ⊆ references root) :
    inline root chain (.object members) known = .error e := by
  rw [inline]
  split
  · rename_i href'
    obtain rfl := Option.some.inj (href.symm.trans href')
    rw [dif_neg new]
    split
    · rename_i htarget'
      rw [htarget] at htarget'
      cases htarget'
    · rename_i htarget'
      obtain rfl := Except.error.inj (htarget.symm.trans htarget')
      rfl
  · rename_i plain
    rw [href] at plain
    cases plain

theorem inline_scalar {value : Json} (h : value.isScalar = true)
    (known : references value ⊆ references root) : inline root chain value known = .ok value := by
  cases value with
  | array => cases h
  | object => cases h
  | null => rw [inline] <;> simp
  | bool => rw [inline] <;> simp
  | number => rw [inline] <;> simp
  | string => rw [inline] <;> simp

/-! ## What an outcome is worth -/

/-- The error that a reference is refused with: it names nothing, or the walk is inside
of it already, or what it names leads back to it. -/
def Refused (root : Json) (chain : List String) (reference : String) (e : ReferenceError) : Prop :=
  root.target reference = .error e ∨
    (∃ circle, e = .cyclic circle) ∧
      (reference ∈ chain ∨
        ∃ value, root.target reference = .ok value ∧ Reached root value.outermost reference)

/-- A result is the expansion; an error comes from a reference that is met. -/
def Right {α : Type} (root : Json) (chain starts : List String) (expands : α → Prop) :
    Except ReferenceError α → Prop
  | .ok result => expands result
  | .error e => ∃ reference, Reached root starts reference ∧ Refused root chain reference e

theorem Right.error_mono {α β : Type} {starts others : List String} {expands : α → Prop}
    {expands' : β → Prop} {e : ReferenceError}
    (h : Right root chain starts expands (.error e)) (hsub : starts ⊆ others) :
    Right root chain others expands' (.error e) := by
  obtain ⟨reference, hreached, hrefused⟩ := h
  exact ⟨reference, hreached.mono hsub, hrefused⟩

/-- Leaving a target: what was refused inside because of the reference around it is a
reference that leads back to itself. -/
theorem Refused.leave {reference inner : String} {value : Json} {e : ReferenceError}
    (htarget : root.target reference = .ok value) (hreached : Reached root value.outermost inner)
    (h : Refused root (chain ++ [reference]) inner e) : Refused root chain inner e := by
  rcases h with h | ⟨hcyclic, hseen | hback⟩
  · exact Or.inl h
  · rcases List.mem_append.1 hseen with hseen | hseen
    · exact Or.inr ⟨hcyclic, Or.inl hseen⟩
    · rw [List.mem_singleton] at hseen
      subst hseen
      exact Or.inr ⟨hcyclic, Or.inr ⟨value, htarget, hreached⟩⟩
  · exact Or.inr ⟨hcyclic, Or.inr hback⟩

/-- **Both outcomes of the walk are right.** The induction follows the walk, one case for
each way through `inline` and its two loops; the chain grows only in the case of a new
reference, and `Refused.leave` takes it back there. -/
theorem inline_right_all (root : Json) :
    (∀ chain value known,
      Right root chain value.outermost (Expands root value) (inline root chain value known)) ∧
    (∀ chain members known,
      Right root chain (outermostInMembers members) (ExpandsMembers root members)
        (inlineMembers root chain members known)) ∧
    (∀ chain items known,
      Right root chain (outermostInItems items) (ExpandsItems root items)
        (inlineItems root chain items known)) := by
  apply inline.mutual_induct root
    (fun chain value known =>
      Right root chain value.outermost (Expands root value) (inline root chain value known))
    (fun chain members known =>
      Right root chain (outermostInMembers members) (ExpandsMembers root members)
        (inlineMembers root chain members known))
    (fun chain items known =>
      Right root chain (outermostInItems items) (ExpandsItems root items)
        (inlineItems root chain items known))
  -- Arrays: the items decide.
  · intro chain items known results hitems _ ih
    rw [hitems] at ih
    rw [inline_array, hitems]
    exact .array ih
  · intro chain items known e hitems _ ih
    rw [hitems] at ih
    rw [inline_array, hitems]
    exact ih.error_mono (by rw [outermost]; exact List.Subset.refl _)
  -- References: seen before, new, or without a target.
  · intro chain members known reference href seen _
    rw [inline_seen href seen]
    refine ⟨reference, .start ?_, Or.inr ⟨⟨_, rfl⟩, Or.inl seen⟩⟩
    rw [outermost_reference href]
    exact List.mem_singleton.2 rfl
  · intro chain members known reference href new value htarget _ ih
    rw [inline_reference href new htarget]
    have hmet : Reached root (outermost (.object members)) reference := by
      rw [outermost_reference href]
      exact .start (List.mem_singleton.2 rfl)
    cases hresult : inline root (chain ++ [reference]) value (references_target htarget) with
    | ok result =>
      rw [hresult] at ih
      exact .reference href htarget ih
    | error e =>
      rw [hresult] at ih
      obtain ⟨inner, hreached, hrefused⟩ := ih
      exact ⟨inner, hmet.trans htarget hreached, hrefused.leave htarget hreached⟩
  · intro chain members known reference href new e htarget _
    rw [inline_unresolved href new htarget]
    refine ⟨reference, .start ?_, Or.inl htarget⟩
    rw [outermost_reference href]
    exact List.mem_singleton.2 rfl
  -- Objects that are no references: the members decide.
  · intro chain members known plain results hmembers _ ih
    rw [hmembers] at ih
    rw [inline_object plain, hmembers]
    exact .object plain ih
  · intro chain members known plain e hmembers _ ih
    rw [hmembers] at ih
    rw [inline_object plain, hmembers]
    exact ih.error_mono (by rw [outermost_object plain]; exact List.Subset.refl _)
  · intro chain value known harray hobject _
    have hscalar : value.isScalar = true := by
      cases value with
      | array items => exact (harray items known rfl HEq.rfl).elim
      | object members => exact (hobject members known rfl HEq.rfl).elim
      | _ => rfl
    rw [inline_scalar hscalar]
    exact .scalar hscalar
  -- Members, one after the other.
  · intro chain known _
    rw [inlineMembers]
    exact .nil
  · intro chain key value rest known e hfirst _ ih
    rw [hfirst] at ih
    rw [inlineMembers, hfirst]
    exact ih.error_mono (by rw [outermostInMembers]; exact List.subset_append_left _ _)
  · intro chain key value rest known first hfirst results hrest _ ihfirst ihrest
    rw [hfirst] at ihfirst
    rw [hrest] at ihrest
    rw [inlineMembers, hfirst]
    simp only [hrest]
    exact .cons ihfirst ihrest
  · intro chain key value rest known first hfirst e hrest _ _ ih
    rw [hrest] at ih
    rw [inlineMembers, hfirst]
    simp only [hrest]
    exact ih.error_mono (by rw [outermostInMembers]; exact List.subset_append_right _ _)
  -- Items, one after the other.
  · intro chain known _
    rw [inlineItems]
    exact .nil
  · intro chain item rest known e hfirst _ ih
    rw [hfirst] at ih
    rw [inlineItems, hfirst]
    exact ih.error_mono (by rw [outermostInItems]; exact List.subset_append_left _ _)
  · intro chain item rest known first hfirst results hrest _ ihfirst ihrest
    rw [hfirst] at ihfirst
    rw [hrest] at ihrest
    rw [inlineItems, hfirst]
    simp only [hrest]
    exact .cons ihfirst ihrest
  · intro chain item rest known first hfirst e hrest _ _ ih
    rw [hrest] at ih
    rw [inlineItems, hfirst]
    simp only [hrest]
    exact ih.error_mono (by rw [outermostInItems]; exact List.subset_append_right _ _)

/-- A result of the walk is the expansion, whatever the chain. -/
theorem expands_of_inline {value result : Json} {known : references value ⊆ references root}
    (h : inline root chain value known = .ok result) : Expands root value result := by
  have hright := (inline_right_all root).1 chain value known
  rwa [h] at hright

/-- An error of the walk comes from a reference that is met. -/
theorem refused_of_inline {value : Json} {known : references value ⊆ references root}
    {e : ReferenceError} (h : inline root chain value known = .error e) :
    ∃ reference, Reached root value.outermost reference ∧ Refused root chain reference e := by
  have hright := (inline_right_all root).1 chain value known
  rwa [h] at hright

/-! ## Expansions are found -/

/-- **The chain can refuse, and nothing else.** What expands is found from every chain
without a reference that is met. If the walk failed, the reference at fault would be
without a target, in the chain, or on a circle, and a sound reference is none of these. -/
theorem Expands.inline_eq_ok {value result : Json} (h : Expands root value result)
    (hchain : ∀ reference ∈ chain, ¬Reached root value.outermost reference)
    (known : references value ⊆ references root) :
    inline root chain value known = .ok result := by
  cases hwalk : inline root chain value known with
  | ok found => rw [(expands_of_inline hwalk).unique h]
  | error e =>
    obtain ⟨reference, hreached, hrefused⟩ := refused_of_inline hwalk
    obtain ⟨target, htarget, -, hnot⟩ := h.sound hreached
    rcases hrefused with herror | ⟨-, hseen | ⟨target', htarget', hback⟩⟩
    · rw [htarget] at herror
      cases herror
    · exact (hchain reference hseen hreached).elim
    · obtain rfl := Except.ok.inj (htarget.symm.trans htarget')
      exact (hnot hback).elim

/-- From the outside an expansion is always found. -/
theorem Expands.inline_nil {value result : Json} (h : Expands root value result)
    (known : references value ⊆ references root) : inline root [] value known = .ok result :=
  h.inline_eq_ok (fun _ hmem => by cases hmem) known

/-- From any chain the walk finds the expansion or an error. -/
theorem Expands.inline_or_error {value result : Json} (h : Expands root value result)
    (chain : List String) (known : references value ⊆ references root) :
    inline root chain value known = .ok result ∨
      ∃ e, inline root chain value known = .error e := by
  cases hwalk : inline root chain value known with
  | ok found => exact Or.inl (by rw [(expands_of_inline hwalk).unique h])
  | error e => exact Or.inr ⟨e, rfl⟩

end SchemaForms.Json
