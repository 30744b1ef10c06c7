/-
Replacing references ends for every root, whatever circles its references make.

The walk of the library carries a proof with it that what it is given occurs in the root, and
it ends because Lean has been shown a measure. Here the walk is written a second time without
either: a visit to a value makes further visits, and nothing says how often (`visit`). A visit
may go from a small value to the whole root, so values alone do not become smaller. What does
is a pair. A visit that follows a reference has that reference at the end of its chain, and it
was not there before; any other visit goes to something directly inside the value, in the same
chain. And a chain cannot grow for ever: the references in it are different, and all of them
occur in the root, because what a reference names is a part of the root.

References are compared as they are written. Two spellings of one place are two references, and
a circle may be gone round until one of them comes back; that is still within the bound.
-/
import Mathlib.Data.List.Dedup
import Mathlib.Logic.Relation
import SchemaForms.Proofs.Recursion.Calls
import SchemaForms.Proofs.Reference.Leftover

set_option autoImplicit false

namespace SchemaForms.Json

open Recursion
open Relation (ReflTransGen)

variable {root : Json} {chain : List String}

/-! ## The size of a value -/

/-- How many parts a value has, itself included. -/
def size (value : Json) : Nat :=
  value.subvalues.length

/-- What is directly inside a value. -/
def children : Json → List Json
  | array items => items
  | object members => members.map Prod.snd
  | _ => []

theorem size_pos (value : Json) : 0 < value.size :=
  List.length_pos_of_mem (mem_subvalues_self value)

theorem size_le_items {items : List Json} {item : Json} (h : item ∈ items) :
    item.size ≤ (subvaluesOfItems items).length := by
  induction items with
  | nil => exact absurd h List.not_mem_nil
  | cons first rest ih =>
    rw [subvaluesOfItems, List.length_append]
    rcases List.mem_cons.1 h with rfl | h
    · exact Nat.le_add_right _ _
    · exact Nat.le_trans (ih h) (Nat.le_add_left _ _)

theorem size_le_members {members : List (String × Json)} {value : Json}
    (h : value ∈ members.map Prod.snd) : value.size ≤ (subvaluesOfMembers members).length := by
  induction members with
  | nil => exact absurd h List.not_mem_nil
  | cons first rest ih =>
    obtain ⟨key, inner⟩ := first
    rw [subvaluesOfMembers, List.length_append]
    rcases List.mem_cons.1 h with rfl | h
    · exact Nat.le_add_right _ _
    · exact Nat.le_trans (ih h) (Nat.le_add_left _ _)

/-- What is inside a value is smaller. -/
theorem size_lt_of_mem_children {value child : Json} (h : child ∈ value.children) :
    child.size < value.size := by
  cases value with
  | array items =>
    rw [size, size, subvalues, List.length_cons]
    exact Nat.lt_succ_of_le (size_le_items h)
  | object members =>
    rw [size, size, subvalues, List.length_cons]
    exact Nat.lt_succ_of_le (size_le_members h)
  | null | bool | number | string => exact absurd h List.not_mem_nil

theorem mem_children_of_child? {token : List Char} {value child : Json}
    (h : child? token value = some child) : child ∈ value.children := by
  cases value with
  | array items =>
    rw [child?] at h
    split at h
    · exact List.mem_of_getElem? h
    · exact absurd h (Option.some_ne_none child).symm
  | object members => exact List.mem_map_of_mem (Keyed.mem_of_get? h)
  | null | bool | number | string => simp [child?] at h

/-- What a reference names is no larger than the root. -/
theorem size_target {reference : String} {value : Json} (h : root.target reference = .ok value) :
    value.size ≤ root.size := by
  have hdescend : ∀ {tokens : List (List Char)} {value below : Json},
      descend? tokens value = some below → below.size ≤ value.size := by
    intro tokens
    induction tokens with
    | nil =>
      intro value below h
      rw [Option.some.inj h]
    | cons token rest ih =>
      intro value below h
      rw [descend?] at h
      split at h
      · rename_i child hchild
        have hsmaller := size_lt_of_mem_children (mem_children_of_child? hchild)
        exact Nat.le_trans (ih h) (Nat.le_of_lt hsmaller)
      · exact absurd h (Option.some_ne_none below).symm
  obtain ⟨pointer, -, hpointer⟩ := target_eq_ok_iff.1 h
  unfold pointer? at hpointer
  split at hpointer
  · exact hdescend hpointer
  · exact absurd hpointer (Option.some_ne_none value).symm

/-- What is inside a value holds no other references. -/
theorem references_of_mem_children {value child : Json} (h : child ∈ value.children) :
    references child ⊆ references value := by
  cases value with
  | array items =>
    rw [references]
    exact references_subset_items h
  | object members =>
    rw [references]
    apply List.subset_append_of_subset_right
    induction members with
    | nil => exact absurd h List.not_mem_nil
    | cons first rest ih =>
      rw [referencesInMembers]
      rcases List.mem_cons.1 h with rfl | h
      · exact List.subset_append_left _ _
      · exact List.subset_append_of_subset_right _ (ih h)
  | null | bool | number | string => exact absurd h List.not_mem_nil

/-! ## The walk, its visits left open -/

/-- A call of the walk: the references it is inside of, and the value it is given. -/
structure Visit where
  chain : List String
  value : Json

/-- Steps that make visits, each of which is answered by a result or an error. -/
abbrev Visiting : Type → Type :=
  Steps fun _ : Visit => Except ReferenceError Json

def visitItems (chain : List String) :
    List Json → Visiting (Except ReferenceError (List Json))
  | [] => return .ok []
  | item :: rest => do
    match ← Steps.answerTo (⟨chain, item⟩ : Visit) with
    | .error e => return .error e
    | .ok result => return (← visitItems chain rest).map (result :: ·)

def visitMembers (chain : List String) :
    List (String × Json) → Visiting (Except ReferenceError (List (String × Json)))
  | [] => return .ok []
  | (key, value) :: rest => do
    match ← Steps.answerTo (⟨chain, value⟩ : Visit) with
    | .error e => return .error e
    | .ok result => return (← visitMembers chain rest).map ((key, result) :: ·)

/-- What the walk does with a value. -/
def visit (root : Json) (call : Visit) : Visiting (Except ReferenceError Json) :=
  match call.value with
  | .array items => do return (← visitItems call.chain items).map .array
  | .object members =>
    match referenceOf? members with
    | some reference =>
      if reference ∈ call.chain then return .error (.cyclic (call.chain ++ [reference]))
      else
        match root.target reference with
        | .ok target => Steps.answerTo (⟨call.chain ++ [reference], target⟩ : Visit)
        | .error e => return .error e
    | none => do return (← visitMembers call.chain members).map .object
  | scalar => return .ok scalar

/-- The visits that replacing the references of a root makes, at whatever depth, or would make
if the answers to earlier ones were different. -/
def Visited (root : Json) (call : Visit) : Prop :=
  ReflTransGen (fun call next => (visit root call).Makes next) ⟨[], root⟩ call

/-! ## Which visits a visit makes -/

theorem makes_visitItems {items : List Json} {next : Visit}
    (h : (visitItems chain items).Makes next) : ∃ item ∈ items, next = ⟨chain, item⟩ := by
  induction items with
  | nil => exact absurd h (Steps.not_makes_pure _ next)
  | cons item rest ih =>
    rcases Steps.Makes.of_bind h with h | ⟨answer, h⟩
    · exact ⟨item, List.mem_cons_self, h.of_answerTo⟩
    · split at h
      · exact absurd h (Steps.not_makes_pure _ next)
      · obtain ⟨other, hother, rfl⟩ := ih h.of_map
        exact ⟨other, List.mem_cons_of_mem item hother, rfl⟩

theorem makes_visitMembers {members : List (String × Json)} {next : Visit}
    (h : (visitMembers chain members).Makes next) :
    ∃ value ∈ members.map Prod.snd, next = ⟨chain, value⟩ := by
  induction members with
  | nil => exact absurd h (Steps.not_makes_pure _ next)
  | cons member rest ih =>
    rcases Steps.Makes.of_bind h with h | ⟨answer, h⟩
    · exact ⟨member.2, List.mem_cons_self, h.of_answerTo⟩
    · split at h
      · exact absurd h (Steps.not_makes_pure _ next)
      · obtain ⟨other, hother, rfl⟩ := ih h.of_map
        exact ⟨other, List.mem_cons_of_mem member.2 hother, rfl⟩

/-- **A visit goes into a new reference, or down in the same chain.** -/
theorem makes_visit {call next : Visit} (h : (visit root call).Makes next) :
    (∃ reference ∈ references call.value, reference ∉ call.chain ∧
      next.chain = call.chain ++ [reference] ∧ root.target reference = .ok next.value) ∨
    next.chain = call.chain ∧ next.value ∈ call.value.children := by
  obtain ⟨chain, value⟩ := call
  cases value with
  | array items =>
    obtain ⟨item, hitem, rfl⟩ := makes_visitItems h.of_map
    exact .inr ⟨rfl, hitem⟩
  | object members =>
    simp only [visit] at h
    split at h
    · rename_i reference href
      have hmem : reference ∈ references (.object members) := by
        rw [references, href]
        exact List.mem_append_left _ (List.mem_singleton.2 rfl)
      by_cases seen : reference ∈ chain
      · rw [if_pos seen] at h
        exact absurd h (Steps.not_makes_pure _ next)
      · rw [if_neg seen] at h
        split at h
        · rename_i target htarget
          rw [h.of_answerTo]
          exact .inl ⟨reference, hmem, seen, rfl, htarget⟩
        · exact absurd h (Steps.not_makes_pure _ next)
    · obtain ⟨value, hvalue, rfl⟩ := makes_visitMembers h.of_map
      exact .inr ⟨rfl, hvalue⟩
  | null | bool | number | string => exact absurd h (Steps.not_makes_pure _ next)

/-! ## What is known of every visit -/

/-- The chain of a visit holds different references of the root, and its value has none but
references of the root and is no larger. -/
structure Visit.Fits (root : Json) (call : Visit) : Prop where
  nodup : call.chain.Nodup
  chain_subset : call.chain ⊆ references root
  references_subset : references call.value ⊆ references root
  size_le : call.value.size ≤ root.size

theorem Visit.fits_start (root : Json) : Visit.Fits root ⟨[], root⟩ where
  nodup := List.nodup_nil
  chain_subset := List.nil_subset _
  references_subset := List.Subset.refl _
  size_le := Nat.le_refl _

/-- One visit hands on to those it makes what is known of it. -/
theorem Visit.Fits.of_makes {call next : Visit} (h : call.Fits root)
    (hmakes : (visit root call).Makes next) : next.Fits root := by
  obtain ⟨chain, value⟩ := next
  rcases makes_visit hmakes with ⟨reference, hmem, hnew, rfl, htarget⟩ | ⟨rfl, hchild⟩
  · constructor
    · exact List.nodup_append_comm.1 (List.nodup_cons.2 ⟨hnew, h.nodup⟩)
    · intro other hother
      rcases List.mem_append.1 hother with hother | hother
      · exact h.chain_subset hother
      · rw [List.mem_singleton.1 hother]
        exact h.references_subset hmem
    · exact references_target htarget
    · exact size_target htarget
  · constructor
    · exact h.nodup
    · exact h.chain_subset
    · exact List.Subset.trans (references_of_mem_children hchild) h.references_subset
    · exact Nat.le_trans (Nat.le_of_lt (size_lt_of_mem_children hchild)) h.size_le

theorem Visited.fits {call : Visit} (h : Visited root call) : call.Fits root := by
  induction h with
  | refl => exact Visit.fits_start root
  | tail _ hmakes ih => exact ih.of_makes hmakes

/-- A chain of different references of the root is no longer than there are such. -/
theorem Visit.Fits.length_le {call : Visit} (h : call.Fits root) :
    call.chain.length ≤ (references root).dedup.length := by
  have hsubset : call.chain ⊆ (references root).dedup := by
    intro reference hmem
    exact List.mem_dedup.2 (h.chain_subset hmem)
  exact (h.nodup.subperm hsubset).length_le

/-! ## The walk ends -/

/-- How many visits may be nested in a visit: for each reference that is still outside of the
chain as many as the root has parts, and as many as the value has parts besides itself. -/
def Visit.rank (root : Json) (call : Visit) : Nat :=
  ((references root).dedup.length - call.chain.length) * root.size + (call.value.size - 1)

theorem descends_visit (root : Json) :
    Descends (visit root) (Visit.Fits root) (Visit.rank root) where
  known_of_makes h hmakes := h.of_makes hmakes
  rank_lt := by
    intro call next h hmakes
    have hnext := h.of_makes hmakes
    have hpos := next.value.size_pos
    unfold Visit.rank
    rcases makes_visit hmakes with ⟨reference, -, -, hchain, -⟩ | ⟨hchain, hchild⟩
    · -- One reference fewer is outside of the chain, which pays for any value in the root.
      have hlength : next.chain.length = call.chain.length + 1 := by
        rw [hchain, List.length_append, List.length_singleton]
      have hfewer : (references root).dedup.length - call.chain.length =
          (references root).dedup.length - next.chain.length + 1 := by
        have := hnext.length_le
        omega
      have hsize := hnext.size_le
      rw [hfewer, Nat.add_mul, Nat.one_mul]
      omega
    · have hsmaller := size_lt_of_mem_children hchild
      rw [hchain]
      omega

/-! ## The walk of the library solves the equations -/

/-- The answer of the library to a visit, if it may be asked. -/
def answer? (root : Json) (call : Visit) : Option (Except ReferenceError Json) :=
  if known : references call.value ⊆ references root then
    some (inline root call.chain call.value known)
  else none

theorem answer?_eq {value : Json} (known : references value ⊆ references root) :
    answer? root ⟨chain, value⟩ = some (inline root chain value known) :=
  dif_pos known

theorem run?_visitItems {items : List Json}
    (known : referencesInItems items ⊆ references root) :
    (visitItems chain items).run? (answer? root) = some (inlineItems root chain items known) := by
  induction items with
  | nil =>
    rw [visitItems, inlineItems]
    rfl
  | cons item rest ih =>
    rw [referencesInItems, List.append_subset] at known
    rw [visitItems, inlineItems, Steps.run?_bind, Steps.run?_answerTo, answer?_eq known.1,
      Option.bind_some]
    split
    · rename_i e herror
      rw [herror]
      rfl
    · rename_i result hresult
      rw [hresult, Steps.run?_bind, ih known.2, Option.bind_some]
      cases inlineItems root chain rest known.2 <;> rfl

theorem run?_visitMembers {members : List (String × Json)}
    (known : referencesInMembers members ⊆ references root) :
    (visitMembers chain members).run? (answer? root) =
      some (inlineMembers root chain members known) := by
  induction members with
  | nil =>
    rw [visitMembers, inlineMembers]
    rfl
  | cons member rest ih =>
    rw [referencesInMembers, List.append_subset] at known
    rw [visitMembers, inlineMembers, Steps.run?_bind, Steps.run?_answerTo, answer?_eq known.1,
      Option.bind_some]
    split
    · rename_i e herror
      rw [herror]
      rfl
    · rename_i result hresult
      rw [hresult, Steps.run?_bind, ih known.2, Option.bind_some]
      cases inlineMembers root chain rest known.2 <;> rfl

/-- **What the library answers is what a visit comes to, if its own visits are answered by the
library.** -/
theorem run?_visit {call : Visit} (h : call.Fits root) :
    (visit root call).run? (answer? root) = answer? root call := by
  obtain ⟨chain, value⟩ := call
  have known := h.references_subset
  rw [answer?_eq known]
  cases value with
  | array items =>
    have hitems := inItems_of_array known
    rw [visit, Steps.run?_bind, run?_visitItems hitems, Option.bind_some, inline_array]
    cases inlineItems root chain items hitems <;> rfl
  | object members =>
    simp only [visit]
    split
    · rename_i reference href
      by_cases seen : reference ∈ chain
      · rw [if_pos seen, inline_seen href seen, Steps.run?_pure]
      · rw [if_neg seen]
        split
        · rename_i target htarget
          rw [inline_reference href seen htarget, Steps.run?_answerTo,
            answer?_eq (references_target htarget)]
        · rename_i e htarget
          rw [inline_unresolved href seen htarget, Steps.run?_pure]
    · rename_i plain
      have hmembers := inMembers_of_object known
      rw [Steps.run?_bind, run?_visitMembers hmembers, Option.bind_some, inline_object plain]
      cases inlineMembers root chain members hmembers <;> rfl
  | null | bool | number | string => rw [inline_scalar rfl]; rfl

/-! ## The statement -/

/-- **Replacing references ends, without a limit on depth.** A visit that is made by another
follows a reference that was not in the chain and is now at the end of it, or goes in the same
chain to something directly inside the value, which is smaller. The chain of every visit holds
different references, all of which occur in the root, so it is never longer than the number of
different references there. And however the references lead round in circles, the walk comes to
an end: a budget for nested visits of one more than that number, times the number of parts of
the root, is enough, and what comes out with any such budget is what the library says. -/
theorem visits_end (root : Json) :
    (∀ call next, (visit root call).Makes next →
      (∃ reference, reference ∉ call.chain ∧ next.chain = call.chain ++ [reference]) ∨
        next.chain = call.chain ∧ next.value ∈ call.value.children ∧
          next.value.size < call.value.size) ∧
    (∀ call, Visited root call →
      call.chain.Nodup ∧ call.chain ⊆ references root ∧
        call.chain.length ≤ (references root).dedup.length) ∧
    ∀ budget, ((references root).dedup.length + 1) * root.size ≤ budget →
      answerWithin (visit root) budget ⟨[], root⟩ = some root.inlineReferences := by
  refine ⟨?_, ?_, ?_⟩
  · intro call next hmakes
    rcases makes_visit hmakes with ⟨reference, -, hnew, hchain, -⟩ | ⟨hchain, hchild⟩
    · exact .inl ⟨reference, hnew, hchain⟩
    · exact .inr ⟨hchain, hchild, size_lt_of_mem_children hchild⟩
  · intro call hvisited
    have hfits := hvisited.fits
    exact ⟨hfits.nodup, hfits.chain_subset, hfits.length_le⟩
  · intro budget hbudget
    have hrank : Visit.rank root ⟨[], root⟩ < budget := by
      have hpos := root.size_pos
      rw [Nat.add_mul, Nat.one_mul] at hbudget
      simp only [Visit.rank, List.length_nil, Nat.sub_zero]
      omega
    have hfits := Visit.fits_start root
    rw [(descends_visit root).answerWithin_eq (fun _ => run?_visit) hfits hrank]
    exact answer?_eq hfits.references_subset

/-- A root in which a reference names the root. -/
def selfNaming : Json :=
  .object [("a", .object [("$ref", .string "#")])]

theorem visits_end_selfNaming :
    Visited selfNaming ⟨["#"], selfNaming⟩ ∧
    ["#"].Nodup ∧ ["#"] ⊆ references selfNaming ∧
    answerWithin (visit selfNaming) 6 ⟨[], selfNaming⟩ = some selfNaming.inlineReferences := by
  obtain ⟨-, hvisits, hends⟩ := visits_end selfNaming
  have hdown : (visit selfNaming ⟨[], selfNaming⟩).Makes
      ⟨[], .object [("$ref", .string "#")]⟩ := .here _ _
  have hback : (visit selfNaming ⟨[], .object [("$ref", .string "#")]⟩).Makes
      ⟨["#"], selfNaming⟩ := .here _ _
  have hvisited : Visited selfNaming ⟨["#"], selfNaming⟩ := .tail (.single hdown) hback
  obtain ⟨hnodup, hsubset, -⟩ := hvisits _ hvisited
  exact ⟨hvisited, hnodup, hsubset, hends 6 (by decide)⟩

end SchemaForms.Json
