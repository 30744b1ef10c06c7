/-
Which error the walk ends with, and why no other. The walk goes through the outermost
references of a value in document order and replaces one after the other, so it fails with
the error of the first that cannot be replaced (`fault?_inline`). A reference cannot be
replaced for a reason of its own, that it closes a circle or has no target (`Fault`), or
because the walk fails inside what it names, and there it is the same question again with
one reference more in the chain.

An error is therefore known with a trail: the references that the walk went into, from the
root on, each among the outermost references of what the one before it names, and behind
references that were all replaced (`Leads`). The references of the trail differ, because
none was in the chain when the walk went into it. The main statement
(`inlineReferences_error_iff`) has both directions. Without the second one the trail might
be any path through the references; with it, what such a trail leads to is the error that
the walk ends with.
-/
import SchemaForms.Failure
import SchemaForms.Proofs.Reference.WrittenOut

set_option autoImplicit false

namespace SchemaForms.Json

variable {root value : Json} {chain : List String} {reference : String} {e : ReferenceError}

/-! ## What stands in the place of a reference -/

/-- What the walk puts in the place of a reference when it is inside of the references of a
chain. -/
def replacement (root : Json) (chain : List String) (reference : String) :
    Except ReferenceError Json :=
  if reference ∈ chain then .error (.cyclic (chain ++ [reference]))
  else
    match htarget : root.target reference with
    | .ok value => inline root (chain ++ [reference]) value (references_target htarget)
    | .error e => .error e

theorem replacement_of_seen (seen : reference ∈ chain) :
    replacement root chain reference = .error (.cyclic (chain ++ [reference])) := by
  rw [replacement, if_pos seen]

theorem replacement_of_target (new : reference ∉ chain)
    (htarget : root.target reference = .ok value) :
    replacement root chain reference =
      inline root (chain ++ [reference]) value (references_target htarget) := by
  rw [replacement, if_neg new]
  split
  · rename_i found hfound
    obtain rfl := Except.ok.inj (htarget.symm.trans hfound)
    rfl
  · rename_i e herror
    rw [htarget] at herror
    cases herror

theorem replacement_of_unresolved (new : reference ∉ chain)
    (htarget : root.target reference = .error e) :
    replacement root chain reference = .error e := by
  rw [replacement, if_neg new]
  split
  · rename_i found hfound
    rw [htarget] at hfound
    cases hfound
  · rename_i e' herror
    rw [← Except.error.inj (htarget.symm.trans herror)]

/-- A reference object is gone into for its reference alone. -/
theorem inline_eq_replacement {members : List (String × Json)}
    (href : referenceOf? members = some reference)
    (known : references (.object members) ⊆ references root) :
    inline root chain (.object members) known = replacement root chain reference := by
  by_cases seen : reference ∈ chain
  · rw [inline_seen href seen, replacement_of_seen seen]
  · cases htarget : root.target reference with
    | ok target => rw [inline_reference href seen htarget, replacement_of_target seen htarget]
    | error e => rw [inline_unresolved href seen htarget, replacement_of_unresolved seen htarget]

/-- Inside of the references of a chain a reference is replaced without error: it names a
value, and the walk finds the expansion of that value. -/
def Replaced (root : Json) (chain : List String) (reference : String) : Prop :=
  ∃ target result, root.target reference = .ok target ∧ Expands root target result ∧
    replacement root chain reference = .ok result

theorem replaced_of_ok {result : Json} (h : replacement root chain reference = .ok result) :
    Replaced root chain reference := by
  by_cases seen : reference ∈ chain
  · rw [replacement_of_seen seen] at h
    cases h
  · cases htarget : root.target reference with
    | ok target =>
      have hwalk := h
      rw [replacement_of_target seen htarget] at hwalk
      exact ⟨target, result, htarget, expands_of_inline hwalk, h⟩
    | error e =>
      rw [replacement_of_unresolved seen htarget] at h
      cases h

/-! ## The first error is the error -/

/-- The error of an outcome. -/
def fault? {α : Type} : Except ReferenceError α → Option ReferenceError
  | .ok _ => none
  | .error e => some e

theorem fault?_eq_some {α : Type} {outcome : Except ReferenceError α} :
    fault? outcome = some e ↔ outcome = .error e := by
  cases outcome <;> simp [fault?]

theorem fault?_replacement_eq_none :
    fault? (replacement root chain reference) = none ↔ Replaced root chain reference := by
  constructor
  · intro h
    cases hresult : replacement root chain reference with
    | ok result => exact replaced_of_ok hresult
    | error e =>
      rw [hresult] at h
      cases h
  · rintro ⟨target, result, -, -, hresult⟩
    rw [hresult, fault?]

mutual

/-- **The walk fails with the error of the first outermost reference that has one.** The
induction is on the value alone: what a reference names is hidden in its replacement. -/
theorem fault?_inline : ∀ (value : Json) (known : references value ⊆ references root),
    fault? (inline root chain value known) =
      value.outermost.findSome? fun reference => fault? (replacement root chain reference)
  | .array items, known => by
    rw [inline_array, outermost, ← fault?_inlineItems items (inItems_of_array known)]
    cases inlineItems root chain items (inItems_of_array known) <;> rfl
  | .object members, known => by
    cases href : referenceOf? members with
    | some reference =>
      rw [inline_eq_replacement href, outermost_reference href, List.findSome?_singleton]
    | none =>
      rw [inline_object href, outermost_object href,
        ← fault?_inlineMembers members (inMembers_of_object known)]
      cases inlineMembers root chain members (inMembers_of_object known) <;> rfl
  | .null, known => by rw [inline_scalar rfl, outermost_scalar rfl]; rfl
  | .bool _, known => by rw [inline_scalar rfl, outermost_scalar rfl]; rfl
  | .number _, known => by rw [inline_scalar rfl, outermost_scalar rfl]; rfl
  | .string _, known => by rw [inline_scalar rfl, outermost_scalar rfl]; rfl

theorem fault?_inlineItems : ∀ (items : List Json)
    (known : referencesInItems items ⊆ references root),
    fault? (inlineItems root chain items known) =
      (outermostInItems items).findSome? fun reference =>
        fault? (replacement root chain reference)
  | [], known => by
    rw [inlineItems, outermostInItems]
    rfl
  | item :: rest, known => by
    have hfirst := fault?_inline item
      (fun r hr => known (by rw [referencesInItems]; exact List.mem_append_left _ hr))
    have hrest := fault?_inlineItems rest
      (fun r hr => known (by rw [referencesInItems]; exact List.mem_append_right _ hr))
    rw [inlineItems, outermostInItems, List.findSome?_append, ← hfirst, ← hrest]
    split
    · rename_i e herror
      rw [herror]
      rfl
    · rename_i result hresult
      rw [hresult]
      split <;> rename_i hitems <;> rw [hitems] <;> rfl

theorem fault?_inlineMembers : ∀ (members : List (String × Json))
    (known : referencesInMembers members ⊆ references root),
    fault? (inlineMembers root chain members known) =
      (outermostInMembers members).findSome? fun reference =>
        fault? (replacement root chain reference)
  | [], known => by
    rw [inlineMembers, outermostInMembers]
    rfl
  | (key, value) :: rest, known => by
    have hfirst := fault?_inline value
      (fun r hr => known (by rw [referencesInMembers]; exact List.mem_append_left _ hr))
    have hrest := fault?_inlineMembers rest
      (fun r hr => known (by rw [referencesInMembers]; exact List.mem_append_right _ hr))
    rw [inlineMembers, outermostInMembers, List.findSome?_append, ← hfirst, ← hrest]
    split
    · rename_i e herror
      rw [herror]
      rfl
    · rename_i result hresult
      rw [hresult]
      split <;> rename_i hmembers <;> rw [hmembers] <;> rfl

end

/-- The walk comes to a reference in a value: it is one of the outermost, and those in front
of it have all been replaced. -/
def Met (root : Json) (chain : List String) (value : Json) (reference : String) : Prop :=
  ∃ before after, value.outermost = before ++ reference :: after ∧
    ∀ earlier ∈ before, Replaced root chain earlier

theorem Met.mem_outermost (h : Met root chain value reference) :
    reference ∈ value.outermost := by
  obtain ⟨before, after, hsplit, -⟩ := h
  rw [hsplit]
  exact List.mem_append_right _ List.mem_cons_self

/-- An error of the walk is the error of a reference that it comes to. -/
theorem inline_eq_error_iff (known : references value ⊆ references root) :
    inline root chain value known = .error e ↔
      ∃ reference, Met root chain value reference ∧
        replacement root chain reference = .error e := by
  rw [← fault?_eq_some, fault?_inline, List.findSome?_eq_some_iff]
  constructor
  · rintro ⟨before, reference, after, hsplit, herror, hbefore⟩
    refine ⟨reference, ⟨before, after, hsplit, ?_⟩, fault?_eq_some.1 herror⟩
    intro earlier hearlier
    exact fault?_replacement_eq_none.1 (hbefore earlier hearlier)
  · rintro ⟨reference, ⟨before, after, hsplit, hbefore⟩, herror⟩
    refine ⟨before, reference, after, hsplit, fault?_eq_some.2 herror, ?_⟩
    intro earlier hearlier
    exact fault?_replacement_eq_none.2 (hbefore earlier hearlier)

/-! ## References at fault -/

/-- Why the walk refuses a reference when it is inside of the references of a chain, with
the error it gives. -/
inductive Fault (root : Json) (chain : List String) (reference : String) :
    ReferenceError → Prop where
  /-- The walk is inside of it already. -/
  | circle (seen : reference ∈ chain) : Fault root chain reference (.cyclic (chain ++ [reference]))
  /-- It does not begin with `#`. -/
  | external (new : reference ∉ chain) (h : ∀ pointer, reference.toList ≠ '#' :: pointer) :
      Fault root chain reference (.external reference)
  /-- The rest of it points to nothing. -/
  | missing {pointer : List Char} (new : reference ∉ chain)
      (h : reference.toList = '#' :: pointer) (hnone : root.pointer? pointer = none) :
      Fault root chain reference (.missing reference)

/-- A reference without target is at fault, and for no other reason is there no target. -/
theorem target_eq_error_iff (new : reference ∉ chain) :
    root.target reference = .error e ↔ Fault root chain reference e := by
  unfold target
  constructor
  · intro h
    split at h
    · rename_i pointer hreference
      split at h
      · cases h
      · rename_i hnone
        rw [← Except.error.inj h]
        exact .missing new hreference hnone
    · rename_i hother
      rw [← Except.error.inj h]
      exact .external new hother
  · intro h
    cases h with
    | circle seen => exact absurd seen new
    | external _ hother =>
      split
      · rename_i pointer hreference
        exact absurd hreference (hother pointer)
      · rfl
    | missing _ hreference hnone =>
      rw [hreference]
      simp only [hnone]

theorem target_ok_or_error (root : Json) (reference : String) :
    (∃ target, root.target reference = .ok target) ∨ ∃ e, root.target reference = .error e := by
  cases root.target reference with
  | ok target => exact .inl ⟨target, rfl⟩
  | error e => exact .inr ⟨e, rfl⟩

/-- **A reference is refused by itself, or the walk fails in what it names.** -/
theorem replacement_eq_error_iff : replacement root chain reference = .error e ↔
    Fault root chain reference e ∨
      reference ∉ chain ∧ ∃ (target : Json) (htarget : root.target reference = .ok target),
        inline root (chain ++ [reference]) target (references_target htarget) = .error e := by
  by_cases seen : reference ∈ chain
  · rw [replacement_of_seen seen]
    constructor
    · intro h
      rw [← Except.error.inj h]
      exact .inl (.circle seen)
    · rintro (hfault | ⟨new, -⟩)
      · -- Of the three faults only the circle is about a reference in the chain.
        cases hfault with
        | circle => rfl
        | external new => exact absurd seen new
        | missing new => exact absurd seen new
      · exact absurd seen new
  · rw [← target_eq_error_iff seen]
    rcases target_ok_or_error root reference with ⟨target, htarget⟩ | ⟨e', htarget⟩
    · rw [replacement_of_target seen htarget]
      constructor
      · intro h
        exact .inr ⟨seen, target, htarget, h⟩
      · rintro (herror | ⟨-, found, hfound, h⟩)
        · rw [htarget] at herror
          cases herror
        · obtain rfl := Except.ok.inj (htarget.symm.trans hfound)
          exact h
    · rw [replacement_of_unresolved seen htarget, ← htarget]
      constructor
      · exact .inl
      · rintro (herror | ⟨-, found, hfound, -⟩)
        · exact herror
        · rw [htarget] at hfound
          cases hfound

/-! ## The trail -/

/-- The walk leads from a value to a last reference, and goes into those of the trail on the
way: it comes to each of them in what the one before it names. -/
inductive Leads (root : Json) : List String → Json → List String → String → Prop where
  | here {chain : List String} {value : Json} {last : String} (h : Met root chain value last) :
      Leads root chain value [] last
  | inside {chain trail : List String} {value target : Json} {reference last : String}
      (h : Met root chain value reference) (htarget : root.target reference = .ok target)
      (hrest : Leads root (chain ++ [reference]) target trail last) :
      Leads root chain value (reference :: trail) last

/-- Every error has a trail. Each reference on it was new to the chain, so there is one fewer
outside of the chain behind it, and that is why the trail ends. -/
theorem exists_leads {chain : List String} {value : Json}
    {known : references value ⊆ references root}
    (hchain : chain.Nodup) (h : inline root chain value known = .error e) :
    ∃ trail last, Leads root chain value trail last ∧ (chain ++ trail).Nodup ∧
      Fault root (chain ++ trail) last e := by
  obtain ⟨reference, hmet, herror⟩ := (inline_eq_error_iff known).1 h
  rcases replacement_eq_error_iff.1 herror with hfault | ⟨new, target, htarget, hinside⟩
  · refine ⟨[], reference, .here hmet, ?_, ?_⟩
    · rwa [List.append_nil]
    · rwa [List.append_nil]
  · have hnodup : (chain ++ [reference]).Nodup := by
      refine List.nodup_append.2 ⟨hchain, List.nodup_singleton _, ?_⟩
      rintro seen hseen other hother rfl
      rw [List.mem_singleton] at hother
      exact new (hother ▸ hseen)
    have hknown : reference ∈ references root :=
      known (outermost_subset_references value hmet.mem_outermost)
    have hfewer := outside_lt hknown new
    obtain ⟨trail, last, hleads, htrail, hfault⟩ := exists_leads hnodup hinside
    rw [List.append_assoc, List.singleton_append] at htrail hfault
    exact ⟨reference :: trail, last, .inside hmet htarget hleads, htrail, hfault⟩
termination_by outside (references root) chain

/-- A trail to a reference at fault is how the walk goes, and there it ends. -/
theorem Leads.inline_eq_error {trail : List String} {last : String}
    (h : Leads root chain value trail last) (hnodup : (chain ++ trail).Nodup)
    (hfault : Fault root (chain ++ trail) last e)
    (known : references value ⊆ references root) :
    inline root chain value known = .error e := by
  induction h with
  | here hmet =>
    rw [List.append_nil] at hfault
    exact (inline_eq_error_iff known).2 ⟨_, hmet, replacement_eq_error_iff.2 (.inl hfault)⟩
  | @inside chain trail value target reference last hmet htarget hrest ih =>
    have new : reference ∉ chain := by
      intro seen
      exact (List.nodup_append.1 hnodup).2.2 reference seen reference List.mem_cons_self rfl
    rw [← List.singleton_append, ← List.append_assoc] at hnodup hfault
    have hinside := ih hnodup hfault (references_target htarget)
    refine (inline_eq_error_iff known).2 ⟨reference, hmet, ?_⟩
    exact replacement_eq_error_iff.2 (.inr ⟨new, target, htarget, hinside⟩)

/-! ## The statement -/

/-- **The error of a walk is that of the first reference at fault.** Replacing the references
of a root fails with an error exactly when it leads through a trail of different references
to one that is at fault and has that error: it is on the trail already, and the error holds
the trail with it at the end, or it begins with something else than `#`, or points to
nothing. All references that come before the last one, in the value around it and in those
around each reference of the trail, have been replaced. The message of the error says which
of the three it is. -/
theorem inlineReferences_error_iff (root : Json) :
    (∀ e, root.inlineReferences = .error e ↔
      ∃ trail last, Leads root [] root trail last ∧ trail.Nodup ∧ Fault root trail last e) ∧
    (∀ circle, (Failure.reference (.cyclic circle)).message =
      "Cyclic reference detected: " ++ " -> ".intercalate circle) ∧
    (∀ reference, (Failure.reference (.external reference)).message =
      Failure.unresolved reference "external references are not supported") ∧
    (∀ reference, (Failure.reference (.missing reference)).message =
      Failure.unresolved reference "no such location in the document") := by
  refine ⟨fun e => ⟨?_, ?_⟩, ?_, ?_, ?_⟩
  · intro h
    exact exists_leads List.nodup_nil h
  · rintro ⟨trail, last, hleads, hnodup, hfault⟩
    exact hleads.inline_eq_error hnodup hfault (List.Subset.refl _)
  all_goals
    intro told
    unfold Failure.message
    rfl

end SchemaForms.Json
