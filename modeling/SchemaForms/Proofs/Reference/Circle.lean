/-
Which values have all their references replaced: those whose references lead somewhere
and never back.

The statement is about the graph of references, with an edge from a reference to the
outermost references of what it names. Nothing is said about how often a reference
occurs or where; a reference that is used a thousand times is one node, and the walk
passes it a thousand times without complaint. Nor is anything said about how a location
is spelled. Two references that name one location are two nodes with the same edges, so
a circle that changes its spelling on the way round is a circle through each of them.
-/
import SchemaForms.Proofs.Reference.Walk

set_option autoImplicit false

namespace SchemaForms.Json

variable {root : Json}

/-! ## Targets -/

/-- A reference names a value when it begins with `#` and the rest points to the value. -/
theorem target_eq_ok_iff {reference : String} {value : Json} :
    root.target reference = .ok value ↔
      ∃ pointer, reference.toList = '#' :: pointer ∧ root.pointer? pointer = some value := by
  unfold target
  constructor
  · intro h
    split at h
    · rename_i pointer hreference
      split at h
      · rename_i found hpointer
        obtain rfl := Except.ok.inj h
        exact ⟨pointer, hreference, hpointer⟩
      · cases h
    · cases h
  · rintro ⟨pointer, hreference, hpointer⟩
    rw [hreference]
    simp only [hpointer]

/-! ## Circles -/

/-- A value whose references are sound has them replaced. -/
theorem inlineReferences_isOk_of_sound
    (h : ∀ reference, Reached root root.outermost reference →
      ∃ value, root.target reference = .ok value ∧ ¬Reached root value.outermost reference) :
    ∃ out, root.inlineReferences = .ok out := by
  cases hwalk : root.inlineReferences with
  | ok out => exact ⟨out, rfl⟩
  | error e =>
    obtain ⟨reference, hreached, hrefused⟩ := refused_of_inline hwalk
    obtain ⟨value, htarget, hnot⟩ := h reference hreached
    rcases hrefused with herror | ⟨-, hseen | ⟨value', htarget', hback⟩⟩
    · rw [htarget] at herror
      cases herror
    · cases hseen
    · obtain rfl := Except.ok.inj (htarget.symm.trans htarget')
      exact (hnot hback).elim

/-- Two references to one value lie on a circle as soon as one leads to the other: what
the second leads to is what the first leads to, itself included. -/
theorem Sound.target_ne {reference : String} {value : Json}
    (h : Sound root reference) (hreached : Reached root value.outermost reference) :
    root.target reference ≠ .ok value := by
  intro htarget
  obtain ⟨value', htarget', -, hnot⟩ := h
  obtain rfl := Except.ok.inj (htarget.symm.trans htarget')
  exact hnot hreached

/-- **References are replaced exactly when their graph has no dead ends and no circles.**
All references of a value can be replaced if and only if every reference that is reached
begins with `#`, points into the value, and is not reached again from where it points.
The error of a circle is only ever given when there is one, and a value that is accepted
has none, not even a circle that comes back under another spelling. -/
theorem inlineReferences_isOk_iff (root : Json) :
    ((∃ out, root.inlineReferences = .ok out) ↔
      ∀ reference, Reached root root.outermost reference →
        ∃ pointer value, reference.toList = '#' :: pointer ∧
          root.pointer? pointer = some value ∧ ¬Reached root value.outermost reference) ∧
    (∀ circle, root.inlineReferences = .error (.cyclic circle) →
      ∃ reference value, Reached root root.outermost reference ∧
        root.target reference = .ok value ∧ Reached root value.outermost reference) ∧
    (∀ out, root.inlineReferences = .ok out →
      ∀ reference again value, Reached root root.outermost reference →
        root.target reference = .ok value → Reached root value.outermost again →
          root.target again ≠ .ok value) := by
  refine ⟨⟨?_, ?_⟩, ?_, ?_⟩
  · rintro ⟨out, hout⟩ reference hreached
    obtain ⟨value, htarget, -, hnot⟩ := (expands_of_inline hout).sound hreached
    obtain ⟨pointer, hreference, hpointer⟩ := target_eq_ok_iff.1 htarget
    exact ⟨pointer, value, hreference, hpointer, hnot⟩
  · intro h
    refine inlineReferences_isOk_of_sound fun reference hreached => ?_
    obtain ⟨pointer, value, hreference, hpointer, hnot⟩ := h reference hreached
    exact ⟨value, target_eq_ok_iff.2 ⟨pointer, hreference, hpointer⟩, hnot⟩
  · intro circle hcircle
    obtain ⟨reference, hreached, hrefused⟩ := refused_of_inline hcircle
    rcases hrefused with herror | ⟨-, hseen | ⟨value, htarget, hback⟩⟩
    · -- A reference without a target is refused with another error.
      unfold target at herror
      split at herror
      · split at herror <;> cases herror
      · cases herror
    · cases hseen
    · exact ⟨reference, value, hreached, htarget, hback⟩
  · intro out hout reference again value hreached htarget hagain
    have hsound := (expands_of_inline hout).sound (hreached.trans htarget hagain)
    exact hsound.target_ne hagain

end SchemaForms.Json
