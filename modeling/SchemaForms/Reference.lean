/-
References inside a value. An object with a text under `$ref` is a reference; whatever
else it holds plays no part. A reference that begins with `#` goes on with a pointer
into the same value, and it stands for what that pointer names, with the references in
there replaced as well. `inlineReferences` replaces them all.

Replacing walks from a reference into its target, which need not lie inside the value
just left, so the size of values does not bound the walk. What bounds it is the chain of
references the walk is inside of: no reference enters its own chain, for that is the
error of a cycle, and every reference met occurs somewhere in the root, for a target is
a part of the root. Each step into a target therefore leaves one reference fewer that is
still outside the chain (`outside_lt`), and between such steps the walk goes down to
smaller values. The second fact travels with the walk as a proof, `known` below; the
lemmas about `references` are there to hand it on.
-/
import SchemaForms.Json.Pointer

set_option autoImplicit false

namespace SchemaForms

/-- Why a reference cannot be replaced. -/
inductive ReferenceError where
  /-- It does not point into the same value. -/
  | external (reference : String)
  /-- It points nowhere. -/
  | missing (reference : String)
  /-- It leads back to itself: the chain of references, the first one again at the end. -/
  | cyclic (chain : List String)
deriving DecidableEq

namespace Json

/-! ## Which references a value holds -/

/-- The reference that an object with these members is. -/
def referenceOf? (members : List (String × Json)) : Option String :=
  match Keyed.get? members "$ref" with
  | some (.string reference) => some reference
  | _ => none

mutual

/-- All references in a value, those beside other references included. -/
def references : Json → List String
  | .array items => referencesInItems items
  | .object members => (referenceOf? members).toList ++ referencesInMembers members
  | _ => []

def referencesInItems : List Json → List String
  | [] => []
  | item :: rest => references item ++ referencesInItems rest

def referencesInMembers : List (String × Json) → List String
  | [] => []
  | (_, value) :: rest => references value ++ referencesInMembers rest

end

theorem references_subset_items {item : Json} {items : List Json} (h : item ∈ items) :
    references item ⊆ referencesInItems items := by
  induction items with
  | nil => cases h
  | cons first rest ih =>
    intro r hr
    rw [referencesInItems, List.mem_append]
    rcases List.mem_cons.1 h with rfl | h
    · exact Or.inl hr
    · exact Or.inr (ih h hr)

theorem references_subset_members {key : String} {value : Json}
    {members : List (String × Json)} (h : Keyed.get? members key = some value) :
    references value ⊆ referencesInMembers members := by
  induction members with
  | nil => simp [Keyed.get?] at h
  | cons first rest ih =>
    obtain ⟨k, v⟩ := first
    intro r hr
    rw [referencesInMembers, List.mem_append]
    rw [Keyed.get?, List.lookup_cons] at h
    split at h
    · injection h with h
      exact Or.inl (h ▸ hr)
    · exact Or.inr (ih h hr)

/-- What a step leads to holds no references that were not there before. -/
theorem references_child {token : List Char} {value below : Json}
    (h : child? token value = some below) : references below ⊆ references value := by
  cases value with
  | array items =>
    simp only [child?] at h
    split at h
    · rw [references]
      exact references_subset_items (List.mem_of_getElem? h)
    · cases h
  | object members =>
    simp only [child?] at h
    rw [references]
    exact fun r hr => List.mem_append_right _ (references_subset_members h hr)
  | null => simp [child?] at h
  | bool => simp [child?] at h
  | number => simp [child?] at h
  | string => simp [child?] at h

theorem references_descend {tokens : List (List Char)} {value below : Json}
    (h : descend? tokens value = some below) : references below ⊆ references value := by
  induction tokens generalizing value with
  | nil =>
    injection h with h
    exact h ▸ List.Subset.refl _
  | cons token rest ih =>
    simp only [descend?] at h
    split at h
    · rename_i next hnext
      exact List.Subset.trans (ih h) (references_child hnext)
    · cases h

/-- A pointer leads to nothing that holds references of its own. -/
theorem references_pointer {pointer : List Char} {root target : Json}
    (h : root.pointer? pointer = some target) : references target ⊆ references root := by
  unfold pointer? at h
  split at h
  · exact references_descend h
  · cases h

/-! ## What a reference stands for -/

/-- The value a reference names. -/
def target (root : Json) (reference : String) : Except ReferenceError Json :=
  match reference.toList with
  | '#' :: pointer =>
    match root.pointer? pointer with
    | some value => .ok value
    | none => .error (.missing reference)
  | _ => .error (.external reference)

theorem references_target {root value : Json} {reference : String}
    (h : root.target reference = .ok value) : references value ⊆ references root := by
  unfold target at h
  split at h
  · split at h
    · rename_i hpointer
      injection h with h
      exact h ▸ references_pointer hpointer
    · cases h
  · cases h

/-! ## The walk ends -/

/-- How many of the given references are outside a chain. -/
def outside (references chain : List String) : Nat :=
  references.countP fun reference => !chain.contains reference

theorem outside_mono (references chain : List String) (reference : String) :
    outside references (chain ++ [reference]) ≤ outside references chain := by
  refine List.countP_mono_left fun r _ hr => ?_
  simp only [List.contains_eq_mem, List.mem_append, Bool.not_eq_true', decide_eq_false_iff_not,
    not_or] at hr ⊢
  exact hr.1

/-- **A new reference in the chain leaves fewer outside.** -/
theorem outside_lt {references chain : List String} {reference : String}
    (known : reference ∈ references) (new : reference ∉ chain) :
    outside references (chain ++ [reference]) < outside references chain := by
  induction references with
  | nil => cases known
  | cons first rest ih =>
    have hrest := outside_mono rest chain reference
    have hfirst := outside_mono [first] chain reference
    simp only [outside, List.countP_cons, List.countP_nil] at hrest hfirst ih ⊢
    rcases List.mem_cons.1 known with rfl | known
    · have before : (!chain.contains reference) = true := by simp [new]
      have after : (!(chain ++ [reference]).contains reference) = false := by simp
      rw [before, after, if_pos rfl, if_neg Bool.false_ne_true]
      omega
    · have := ih known
      omega

/-! ## The walk -/

mutual

/-- Replaces the references in a value of which everything is known to occur in the
root; `chain` holds the references the walk is inside of, outermost first. -/
def inline (root : Json) (chain : List String) (value : Json)
    (known : references value ⊆ references root) : Except ReferenceError Json :=
  match value with
  | .array items =>
    match inlineItems root chain items (by rwa [references] at known) with
    | .ok items => .ok (.array items)
    | .error e => .error e
  | .object members =>
    match href : referenceOf? members with
    | some reference =>
      if seen : reference ∈ chain then .error (.cyclic (chain ++ [reference]))
      else
        match htarget : root.target reference with
        | .ok value => inline root (chain ++ [reference]) value (references_target htarget)
        | .error e => .error e
    | none =>
      match inlineMembers root chain members
        (fun r hr => known (by rw [references]; exact List.mem_append_right _ hr)) with
      | .ok members => .ok (.object members)
      | .error e => .error e
  | scalar => .ok scalar
termination_by (outside (references root) chain, sizeOf value)
decreasing_by
  · exact Prod.Lex.right _ (by simp)
  · refine Prod.Lex.left _ _ (outside_lt (known ?_) seen)
    rw [references]
    exact List.mem_append_left _ (by simp [href])
  · exact Prod.Lex.right _ (by simp)

def inlineItems (root : Json) (chain : List String) (items : List Json)
    (known : referencesInItems items ⊆ references root) : Except ReferenceError (List Json) :=
  match items with
  | [] => .ok []
  | item :: rest =>
    match inline root chain item
      (fun r hr => known (by rw [referencesInItems]; exact List.mem_append_left _ hr)) with
    | .error e => .error e
    | .ok item =>
      match inlineItems root chain rest
        (fun r hr => known (by rw [referencesInItems]; exact List.mem_append_right _ hr)) with
      | .ok rest => .ok (item :: rest)
      | .error e => .error e
termination_by (outside (references root) chain, sizeOf items)
decreasing_by
  · exact Prod.Lex.right _ (by simp +arith)
  · exact Prod.Lex.right _ (by simp +arith)

def inlineMembers (root : Json) (chain : List String) (members : List (String × Json))
    (known : referencesInMembers members ⊆ references root) :
    Except ReferenceError (List (String × Json)) :=
  match members with
  | [] => .ok []
  | (key, value) :: rest =>
    match inline root chain value
      (fun r hr => known (by rw [referencesInMembers]; exact List.mem_append_left _ hr)) with
    | .error e => .error e
    | .ok value =>
      match inlineMembers root chain rest
        (fun r hr => known (by rw [referencesInMembers]; exact List.mem_append_right _ hr)) with
      | .ok rest => .ok ((key, value) :: rest)
      | .error e => .error e
termination_by (outside (references root) chain, sizeOf members)
decreasing_by
  · exact Prod.Lex.right _ (by simp +arith)
  · exact Prod.Lex.right _ (by simp +arith)

end

/-- The value with every reference replaced by what it stands for. -/
def inlineReferences (root : Json) : Except ReferenceError Json :=
  inline root [] root (List.Subset.refl _)

end Json

end SchemaForms
