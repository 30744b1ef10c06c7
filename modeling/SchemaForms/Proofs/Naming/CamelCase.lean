/-
The characters of a name in camel case. Words hold letters and numbers only, and case forms
are letters or, in a few cases, letters and marks; so whatever a name is made of, nothing is
left of its control characters, blanks, points and slashes, all of which come before the
digits in ASCII (`above_of_mem_camelCase`). And no case form is empty, so camel case is empty
exactly when there is nothing to make it of (`camelCase_eq_empty_iff`).

Both are needed where a name from a document becomes part of a path.
-/
import SchemaForms.Proofs.Naming.Identifier

set_option autoImplicit false

namespace SchemaForms.Naming

open Text

/-! ## Above the slash -/

/-- The character comes after the slash: it is no control character of ASCII, no blank, no
point and no slash. -/
def IsAbove (c : Char) : Prop :=
  '/'.toNat < c.toNat

/-- Letters and numbers begin above the slash. -/
theorem increases_above_slash : CharTable.increases '/'.toNat alphabeticTable = true ∧
    CharTable.increases '/'.toNat numericTable = true := by
  decide +kernel

/-- The interval that a code point lies in begins above the slash, if the table does. -/
theorem above_of_contains {table : CharTable} {n : Nat}
    (hincreases : CharTable.increases '/'.toNat table = true) (h : table.contains n = true) :
    '/'.toNat < n := by
  obtain ⟨r, hr, hlow, -⟩ := (CharTable.contains_iff_of_increases hincreases n).1 h
  have habove := ((CharTable.increases_spec hincreases).2 r hr).1
  omega

theorem above_of_isAlphabetic {c : Char} (h : isAlphabetic c = true) : IsAbove c :=
  above_of_contains increases_above_slash.1 h

theorem above_of_isWordChar {c : Char} (h : isWordChar c = true) : IsAbove c := by
  rw [isWordChar, Bool.or_eq_true] at h
  rcases h with hletter | hnumber
  · exact above_of_isAlphabetic hletter
  · exact above_of_contains increases_above_slash.2 hnumber

/-! ## Case forms -/

/-- Are all forms of the list longer than nothing and above the slash? -/
def formsAbove (longer : List (Nat × List Nat)) : Bool :=
  longer.all fun entry =>
    !entry.2.isEmpty && entry.2.all fun n => Nat.blt '/'.toNat (Char.ofNat n).toNat

theorem formsAbove_longer : formsAbove lowerLonger = true ∧ formsAbove upperLonger = true := by
  decide +kernel

/-- **A case form is not empty, and stays above the slash.** -/
theorem caseForm_above {runs : List CaseRun} {longer : List (Nat × List Nat)}
    (hruns : runs.all CaseRun.isCased = true) (hlonger : formsAbove longer = true) {c : Char}
    (hc : IsAbove c) : caseForm runs longer c ≠ [] ∧ ∀ d ∈ caseForm runs longer c, IsAbove d := by
  rcases caseForm_cases hruns longer c with ⟨form, hform, heq⟩ | ⟨d, heq, -, hcased, -⟩ | heq
  · -- A longer form: these are few, and have been looked through.
    have hentry := List.all_eq_true.1 hlonger _ hform
    rw [Bool.and_eq_true, Bool.not_eq_true', List.isEmpty_eq_false_iff, List.all_eq_true] at hentry
    rw [heq]
    refine ⟨by simpa using hentry.1, ?_⟩
    intro d hd
    obtain ⟨n, hn, rfl⟩ := List.mem_map.1 hd
    exact Nat.le_of_ble_eq_true (hentry.2 n hn)
  · -- One character for another: that one has a case, so it is a letter.
    rw [heq]
    refine ⟨by simp, ?_⟩
    intro d' hd'
    obtain rfl := List.mem_singleton.1 hd'
    exact above_of_isAlphabetic (isAlphabetic_of_isCased hcased)
  · rw [heq]
    refine ⟨by simp, ?_⟩
    intro d hd
    obtain rfl := List.mem_singleton.1 hd
    exact hc

theorem lower_above {c : Char} (hc : IsAbove c) : lower c ≠ [] ∧ ∀ d ∈ lower c, IsAbove d :=
  caseForm_above runs_isCased.1 formsAbove_longer.1 hc

theorem upper_above {c : Char} (hc : IsAbove c) : upper c ≠ [] ∧ ∀ d ∈ upper c, IsAbove d :=
  caseForm_above runs_isCased.2 formsAbove_longer.2 hc

/-! ## Words -/

section

variable {word : List Char}

theorem lowercaseAfter_above (h : ∀ c ∈ word, IsAbove c) (before : List Char) :
    ∀ d ∈ lowercaseAfter before word, IsAbove d := by
  -- What stands before a character matters for sigma alone, and there either form will do.
  induction word generalizing before with
  | nil => simp [lowercaseAfter]
  | cons c rest ih =>
    rw [List.forall_mem_cons] at h
    unfold lowercaseAfter
    rw [List.forall_mem_append]
    refine ⟨?_, ih h.2 _⟩
    by_cases hsigma : c = 'Σ'
    · rw [if_pos hsigma]
      intro d hd
      obtain rfl := List.mem_singleton.1 hd
      unfold IsAbove
      split <;> decide
    · rw [if_neg hsigma]
      exact (lower_above h.1).2

theorem lowercase_ne_nil (h : ∀ c ∈ word, IsAbove c) (hne : word ≠ []) : lowercase word ≠ [] := by
  obtain ⟨c, rest, rfl⟩ := List.exists_cons_of_ne_nil hne
  unfold lowercase lowercaseAfter
  by_cases hsigma : c = 'Σ'
  · simp [hsigma]
  · rw [if_neg hsigma]
    have hlower := (lower_above (h c List.mem_cons_self)).1
    simp [hlower]

theorem capitalize_above (h : ∀ c ∈ word, IsAbove c) : ∀ d ∈ capitalize word, IsAbove d := by
  cases word with
  | nil => simp [capitalize]
  | cons c rest =>
    rw [List.forall_mem_cons] at h
    rw [capitalize, List.forall_mem_append]
    exact ⟨(upper_above h.1).2, h.2⟩

end

theorem joinCamel_above {words : List (List Char)} (h : ∀ word ∈ words, ∀ c ∈ word, IsAbove c) :
    ∀ d ∈ joinCamel words, IsAbove d := by
  cases words with
  | nil => simp [joinCamel]
  | cons first others =>
    rw [List.forall_mem_cons] at h
    rw [joinCamel, List.forall_mem_append, List.forall_mem_flatMap]
    refine ⟨lowercaseAfter_above h.1 [], ?_⟩
    intro word hword
    exact capitalize_above (lowercaseAfter_above (h.2 word hword) [])

/-! ## Camel case -/

theorem above_of_mem_words {s word : List Char} (h : word ∈ words s) : ∀ c ∈ word, IsAbove c :=
  fun _ hc => above_of_isWordChar (isWordChar_of_mem_words h hc)

/-- **Whatever a name is made of, in camel case all of it is above the slash.** -/
theorem above_of_mem_camelCase {name : String} {c : Char} (h : c ∈ (camelCase name).toList) :
    IsAbove c := by
  rw [camelCase, String.toList_ofList] at h
  exact joinCamel_above (fun word hword => above_of_mem_words hword) c h

/-- A text has no words exactly when it has neither letters nor numbers. -/
theorem words_eq_nil_iff (s : List Char) : words s = [] ↔ s.any isWordChar = false := by
  have hflatten : words s = [] ↔ (words s).flatten = [] := by
    rw [List.flatten_eq_nil_iff]
    constructor
    · intro hnil
      simp [hnil]
    · intro hall
      -- A word would have to be empty, and none is.
      apply List.eq_nil_iff_forall_not_mem.2
      intro word hword
      exact ne_nil_of_mem_words hword (hall word hword)
  rw [hflatten, flatten_words, List.filter_eq_nil_iff]
  simp

/-- **Camel case is empty only if there is nothing to make it of.** -/
theorem camelCase_eq_empty_iff (name : String) :
    camelCase name = "" ↔ name.toList.any isWordChar = false := by
  rw [← words_eq_nil_iff, camelCase, String.ofList_eq_empty_iff]
  cases hwords : words name.toList with
  | nil => simp [joinCamel]
  | cons first others =>
    have hfirst : first ∈ words name.toList := hwords ▸ List.mem_cons_self
    have hlower := lowercase_ne_nil (above_of_mem_words hfirst) (ne_nil_of_mem_words hfirst)
    simp [joinCamel, hlower]

end SchemaForms.Naming
