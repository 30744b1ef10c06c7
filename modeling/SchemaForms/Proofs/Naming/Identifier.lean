/-
When the constant of a form is an identifier. Its name consists of letters and numbers,
for nothing else is in words, and it ends in `Form`; so one expects an identifier. Three
things stand in the way, and nothing else does (`isIdentifier_formIdentifier_iff`):

- a name whose first letter or number is a number, as `2fa`;
- the capital I with a dot, which in lower case is a letter and a combining mark;
- a word, not the first, that begins with one of those small letters whose capital form
  has a combining mark in it.

That there are no others is a matter of the tables of case forms. Lower case sends every
other character to one of the same sort (`lowercase_forall₂`), upper case sends a letter
or number without a marked capital to letters and numbers (`upper_parts_iff`), and the
rest is about the words of a name.
-/
import SchemaForms.Proofs.Naming.Constants
import SchemaForms.Proofs.Text.Letters

set_option autoImplicit false

namespace SchemaForms

namespace Naming

open Text

/-! ## Marked capitals -/

/-- The small letters whose capital form has a combining mark in it, as code points: the
Latin ones with a caron, a line, a diaeresis or a ring, and Greek vowels and rho with
more than one accent or breathing. -/
def markedCapitals : List Nat :=
  [0x1F0, 0x390, 0x3B0, 0x1E96, 0x1E97, 0x1E98, 0x1E99, 0x1F50, 0x1F52, 0x1F54, 0x1F56, 0x1FB6,
   0x1FB7, 0x1FC6, 0x1FC7, 0x1FD2, 0x1FD3, 0x1FD6, 0x1FD7, 0x1FE2, 0x1FE3, 0x1FE4, 0x1FE6,
   0x1FE7, 0x1FF6, 0x1FF7]

/-- Does the run stay away from the code point, at both ends? -/
def avoids (run : CaseRun) (n : Nat) : Bool :=
  (run.map? n).isNone &&
    (Nat.blt n run.target || Nat.blt (run.target + (run.high - run.low)) n ||
      !Nat.beq ((n - run.target) % run.step) 0)

/-- The lower case leads neither to a letter with a marked capital nor away from one. A longer
capital form consists of letters, or it is a marked one; and the marked ones have a mark. -/
theorem markedCapitals_spec :
    lowerRuns.all (fun run => markedCapitals.all (avoids run)) = true ∧
    upperLonger.all (fun entry =>
      markedCapitals.contains entry.1 ||
        entry.2.all fun n => isIdentifierPart (Char.ofNat n)) = true ∧
    markedCapitals.all (fun n =>
      (upper (Char.ofNat n)).any fun c => !isIdentifierPart c) = true := by
  decide +kernel

theorem not_mem_of_avoids {run : CaseRun} {n m : Nat}
    (hrun : markedCapitals.all (avoids run) = true) (h : run.map? n = some m) :
    n ∉ markedCapitals ∧ m ∉ markedCapitals := by
  rw [List.all_eq_true] at hrun
  constructor
  · intro hn
    have := hrun n hn
    simp [avoids, h] at this
  · -- Where the run leads is as far from its target as the code point is from its beginning.
    intro hm
    have hend := hrun m hm
    obtain ⟨hlow, hhigh, hstep, rfl⟩ := CaseRun.map?_eq_some h
    simp only [avoids, Bool.and_eq_true, Bool.or_eq_true, Nat.blt_eq, Nat.add_sub_cancel_left,
      hstep] at hend
    rcases hend.2 with (hbelow | habove) | hbetween
    · omega
    · omega
    · cases hbetween

/-! ## Lower case -/

/-- The two characters are of the same sort, as far as identifiers are concerned. -/
structure Lowered (c d : Char) : Prop where
  /-- A letter or number becomes one. -/
  wordChar : isWordChar c = true → isWordChar d = true
  /-- Letters stay letters, and nothing else becomes one. -/
  alphabetic : isAlphabetic d = isAlphabetic c
  /-- And the same goes for letters with a marked capital. -/
  marked : d.toNat ∈ markedCapitals ↔ c.toNat ∈ markedCapitals

theorem Lowered.refl (c : Char) : Lowered c c :=
  ⟨id, rfl, Iff.rfl⟩

/-- Small and capital sigma are of one sort. -/
theorem lowered_sigma (final : Bool) : Lowered 'Σ' (if final then 'ς' else 'σ') := by
  cases final <;> exact ⟨by decide, by decide, by decide⟩

/-- The only character whose lower case is longer than one is the dotted I. -/
theorem lower_lowered {c : Char} (h : c ≠ 'İ') : ∃ d, lower c = [d] ∧ Lowered c d := by
  rcases caseForm_cases runs_isCased.1 lowerLonger c with
    ⟨form, hform, -⟩ | ⟨d, hd, hc, hcased, run, hrun, hmap⟩ | hself
  · simp only [lowerLonger, List.mem_singleton, Prod.mk.injEq] at hform
    have : c = 'İ' := by rw [← Char.ofNat_toNat c, hform.1]
    contradiction
  · -- Both ends of a run have a case, so both are letters, and neither has a marked capital.
    have hletter := isAlphabetic_of_isCased hc
    have hlowered := isAlphabetic_of_isCased hcased
    obtain ⟨hfrom, hto⟩ :=
      not_mem_of_avoids (List.all_eq_true.1 markedCapitals_spec.1 run hrun) hmap
    exact ⟨d, hd, fun _ => by simp [isWordChar, hlowered], by rw [hletter, hlowered],
      by simp [hfrom, hto]⟩
  · exact ⟨c, hself, .refl c⟩

theorem lowercaseAfter_forall₂ {s : List Char} (h : 'İ' ∉ s) (before : List Char) :
    List.Forall₂ Lowered s (lowercaseAfter before s) := by
  induction s generalizing before with
  | nil => exact .nil
  | cons c rest ih =>
    rw [List.mem_cons, not_or] at h
    have hrest := ih h.2 (c :: before)
    rw [lowercaseAfter]
    by_cases hsigma : c = 'Σ'
    · subst hsigma
      exact .cons (lowered_sigma _) hrest
    · obtain ⟨d, hd, hlowered⟩ := lower_lowered (Ne.symm h.1)
      rw [if_neg hsigma, hd]
      exact .cons hlowered hrest

/-- **Lower case goes character by character**, and keeps the sort of each. -/
theorem lowercase_forall₂ {s : List Char} (h : 'İ' ∉ s) : List.Forall₂ Lowered s (lowercase s) :=
  lowercaseAfter_forall₂ h []

/-- The mark that the lower case of the dotted I ends in. -/
theorem lowercaseAfter_mark {s : List Char} (h : 'İ' ∈ s) (before : List Char) :
    '\u0307' ∈ (lowercaseAfter before s).tail := by
  induction s generalizing before with
  | nil => cases h
  | cons c rest ih =>
    rw [lowercaseAfter]
    by_cases hc : c = 'İ'
    · subst hc
      have hlower : lower 'İ' = ['i', '\u0307'] := by decide
      rw [if_neg (by decide), hlower]
      simp
    · -- Behind any other character the rest is the tail, and its own tail is in there.
      have hmark := List.mem_of_mem_tail (ih ((List.mem_cons.1 h).resolve_left (Ne.symm hc))
        (c :: before))
      by_cases hsigma : c = 'Σ'
      · simpa [hsigma] using hmark
      · obtain ⟨d, hd, -⟩ := lower_lowered hc
        simpa [hsigma, hd] using hmark

/-! ## Upper case -/

theorem isIdentifierPart_of_isWordChar {c : Char} (h : isWordChar c = true) :
    isIdentifierPart c = true := by
  simp [isIdentifierPart, h]

/-- **A letter or number has a capital form of such, unless it is a marked one.** -/
theorem upper_parts_iff {c : Char} (h : isWordChar c = true) :
    (∀ d ∈ upper c, isIdentifierPart d = true) ↔ c.toNat ∉ markedCapitals := by
  constructor
  · intro hparts hmarked
    have hmark := List.all_eq_true.1 markedCapitals_spec.2.2 c.toNat hmarked
    rw [Char.ofNat_toNat, List.any_eq_true] at hmark
    obtain ⟨d, hd, hnot⟩ := hmark
    simp [hparts d hd] at hnot
  · intro hplain
    rcases caseForm_cases runs_isCased.2 upperLonger c with
      ⟨form, hform, hupper⟩ | ⟨d, hd, -, hcased, -⟩ | hself
    · have hletters := List.all_eq_true.1 markedCapitals_spec.2.1 _ hform
      simp only [Bool.or_eq_true, List.contains_iff_mem, hplain, false_or, List.all_eq_true]
        at hletters
      rw [upper, hupper]
      simpa using hletters
    · have hletter := isAlphabetic_of_isCased hcased
      rw [upper, hd]
      simpa using isIdentifierPart_of_isWordChar (by simp [isWordChar, hletter])
    · rw [upper, hself]
      simpa using isIdentifierPart_of_isWordChar h

/-! ## Words -/

/-- The dotted I is a letter, so it is in a word when it is in the name. -/
theorem dotted_mem_iff (s : List Char) : 'İ' ∈ s ↔ ∃ word ∈ words s, 'İ' ∈ word := by
  have hletter : isWordChar 'İ' = true := by decide
  rw [← List.mem_flatten, flatten_words, List.mem_filter, and_iff_left hletter]

/-- The first letter or number of a name is the first character of its first word. -/
theorem find?_isWordChar (s : List Char) :
    s.find? isWordChar = (words s).head?.bind List.head? := by
  rw [← List.head?_filter, ← flatten_words]
  cases hwords : words s with
  | nil => rfl
  | cons first others =>
    obtain ⟨c, rest, rfl⟩ := List.exists_cons_of_ne_nil
      (ne_nil_of_mem_words (hwords ▸ List.mem_cons_self : first ∈ words s))
    rfl

/-! ## Words in lower case -/

section

variable {word lowered : List Char}

theorem wordChars_of_lowered (h : List.Forall₂ Lowered word lowered)
    (hletters : ∀ c ∈ word, isWordChar c = true) : ∀ d ∈ lowered, isWordChar d = true := by
  induction h with
  | nil => simp
  | cons hlowered hrest ih =>
    rw [List.forall_mem_cons] at hletters ⊢
    exact ⟨hlowered.wordChar hletters.1, ih hletters.2⟩

/-- The upper case changes the first character only. -/
theorem mem_capitalize_of_mem_tail {c : Char} (h : c ∈ word.tail) : c ∈ capitalize word := by
  cases word with
  | nil => simp at h
  | cons first rest =>
    rw [List.tail_cons] at h
    rw [capitalize]
    exact List.mem_append_right _ h

/-- A word with its first character in upper case goes on an identifier unless this is a
letter with a marked capital. -/
theorem capitalize_parts_iff (h : List.Forall₂ Lowered word lowered)
    (hletters : ∀ c ∈ word, isWordChar c = true) :
    (∀ d ∈ capitalize lowered, isIdentifierPart d = true) ↔
      ∀ c, word.head? = some c → c.toNat ∉ markedCapitals := by
  have hwordChars := wordChars_of_lowered h hletters
  cases h with
  | nil => simp [capitalize]
  | cons hlowered hrest =>
    rw [List.forall_mem_cons] at hwordChars
    have hparts := fun d hd => isIdentifierPart_of_isWordChar (hwordChars.2 d hd)
    rw [capitalize, List.forall_mem_append, upper_parts_iff hwordChars.1, hlowered.marked,
      and_iff_left hparts]
    simp

/-- A word in lower case begins an identifier when it begins with a letter. -/
theorem start_iff (h : List.Forall₂ Lowered word lowered)
    (hletters : ∀ c ∈ word, isWordChar c = true) :
    (∀ d, lowered.head? = some d → isIdentifierStart d = true) ↔
      ∀ c, word.head? = some c → isAlphabetic c = true := by
  have hwordChars := wordChars_of_lowered h hletters
  cases h with
  | nil => simp
  | @cons c d word lowered hlowered hrest =>
    have hd := hwordChars d List.mem_cons_self
    -- No letter or number is an underscore or a dollar sign.
    have hunderscore : d ≠ '_' := by
      rintro rfl
      exact absurd hd (by decide)
    have hdollar : d ≠ '$' := by
      rintro rfl
      exact absurd hd (by decide)
    simp [isIdentifierStart, hunderscore, hdollar, hlowered.alphabetic]

end

section

variable {words : List (List Char)}

/-- The mark of the dotted I is in the camel case, wherever the dotted I was. -/
theorem mark_mem_joinCamel (h : ∃ word ∈ words, 'İ' ∈ word) : '\u0307' ∈ joinCamel words := by
  obtain ⟨word, hword, hdot⟩ := h
  have hmark := lowercaseAfter_mark hdot []
  cases words with
  | nil => simp at hword
  | cons first others =>
    rw [joinCamel, List.mem_append, List.mem_flatMap]
    rcases List.mem_cons.1 hword with rfl | hword
    · exact Or.inl (List.mem_of_mem_tail hmark)
    · exact Or.inr ⟨word, hword, mem_capitalize_of_mem_tail hmark⟩

variable (hletters : ∀ word ∈ words, ∀ c ∈ word, isWordChar c = true)
  (hdot : ∀ word ∈ words, 'İ' ∉ word)

include hletters hdot

theorem joinCamel_parts_iff : (∀ d ∈ joinCamel words, isIdentifierPart d = true) ↔
    ∀ word ∈ words.tail, ∀ c, word.head? = some c → c.toNat ∉ markedCapitals := by
  cases words with
  | nil => simp [joinCamel]
  | cons first others =>
    rw [List.forall_mem_cons] at hletters hdot
    have hfirst := fun d hd => isIdentifierPart_of_isWordChar
      (wordChars_of_lowered (lowercase_forall₂ hdot.1) hletters.1 d hd)
    rw [joinCamel, List.forall_mem_append, and_iff_right hfirst, List.forall_mem_flatMap]
    exact forall₂_congr fun word hword =>
      capitalize_parts_iff (lowercase_forall₂ (hdot.2 word hword)) (hletters.2 word hword)

theorem joinCamel_start_iff (hne : ∀ word ∈ words, word ≠ []) :
    (∀ d, (joinCamel words).head? = some d → isIdentifierStart d = true) ↔
      ∀ c, words.head?.bind List.head? = some c → isAlphabetic c = true := by
  cases words with
  | nil => simp [joinCamel]
  | cons first others =>
    rw [List.forall_mem_cons] at hletters hdot hne
    have hlowered := lowercase_forall₂ hdot.1
    have hlowerNe : lowercase first ≠ [] := by
      intro hnil
      rw [hnil, List.forall₂_nil_right_iff] at hlowered
      exact hne.1 hlowered
    rw [joinCamel, List.head?_append_of_ne_nil _ hlowerNe]
    exact start_iff hlowered hletters.1

end

/-! ## The constant -/

theorem isIdentifierPart_of_start {c : Char} (h : isIdentifierStart c = true) :
    isIdentifierPart c = true := by
  simp only [isIdentifierStart, isIdentifierPart, isWordChar, Bool.or_eq_true] at h ⊢
  tauto

/-- In front of `Form` the empty name is as good as any. -/
theorem isIdentifier_append_form (s : List Char) :
    isIdentifier (String.ofList s ++ "Form") = true ↔
      (∀ c, s.head? = some c → isIdentifierStart c = true) ∧
        ∀ c ∈ s, isIdentifierPart c = true := by
  cases s with
  | nil =>
    have hform : isIdentifier "Form" = true := by decide
    simpa using hform
  | cons c rest =>
    have hform : "Form".toList.all isIdentifierPart = true := by decide
    simp only [isIdentifier, String.toList_append, String.toList_ofList, List.cons_append,
      List.all_append, hform, Bool.and_eq_true, List.all_eq_true, and_true, List.head?_cons,
      Option.some.injEq, forall_eq', List.forall_mem_cons]
    constructor
    · rintro ⟨hstart, hrest⟩
      exact ⟨hstart, isIdentifierPart_of_start hstart, hrest⟩
    · rintro ⟨hstart, -, hrest⟩
      exact ⟨hstart, hrest⟩

/-- **When the constant of a form is an identifier.** The first letter or number of the
definition's name has to be a letter, the name must not hold the dotted I, and no word
after the first may begin with a letter whose capital is a marked one. A name without
letters and numbers is fine, its constant is `Form`. -/
theorem isIdentifier_formIdentifier_iff (name : String) :
    isIdentifier (formIdentifier name) = true ↔
      (∀ c, name.toList.find? isWordChar = some c → isAlphabetic c = true) ∧
      'İ' ∉ name.toList ∧
      ∀ word ∈ (words name.toList).tail, ∀ c, word.head? = some c →
        c.toNat ∉ markedCapitals := by
  rw [formIdentifier, camelCase, isIdentifier_append_form, dotted_mem_iff, find?_isWordChar]
  by_cases hdot : ∃ word ∈ words name.toList, 'İ' ∈ word
  · -- The mark that the dotted I leaves is no part of an identifier, so both sides fail.
    have hmark : isIdentifierPart '\u0307' = false := by decide
    have hnot : ¬ ∀ c ∈ joinCamel (words name.toList), isIdentifierPart c = true := by
      intro hparts
      rw [hparts _ (mark_mem_joinCamel hdot)] at hmark
      cases hmark
    simp only [hnot, hdot, and_false, not_true, false_and]
  · have hplain : ∀ word ∈ words name.toList, 'İ' ∉ word := by simpa using hdot
    have hletters : ∀ word ∈ words name.toList, ∀ c ∈ word, isWordChar c = true :=
      fun word hword c hc => isWordChar_of_mem_words hword hc
    rw [joinCamel_start_iff hletters hplain fun word hword => ne_nil_of_mem_words hword,
      joinCamel_parts_iff hletters hplain, and_iff_right hdot]

/-- A definition's name may begin with a digit, and then its constant does. -/
theorem formIdentifier_digit :
    formIdentifier "2fa" = "2faForm" ∧ isIdentifier (formIdentifier "2fa") = false := by
  decide +kernel

end Naming

end SchemaForms
