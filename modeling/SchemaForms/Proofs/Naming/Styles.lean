/-
Names in different styles. What is `pet-store item` to one writer is `PetStoreItem` to another
and `petStoreItem` to a third, and the camel case of all three is the same
(`camelCase_of_styles`). In the first style words are found by the gaps between them, in the
others by their capitals.

A capital begins a word behind a small letter, so words are told apart wherever the one before
has a second letter. A word of one letter is a capital itself in the last two styles, and behind
a capital it is the small letter to come that tells: the next word must have a second letter.
That no two words of one letter stand side by side is therefore needed, `AB` is one word; and
it is all that is needed, for the pass never looks further than that (`CutOff`).

The words here are of small ASCII letters. What is used of these is that they have a capital of
one character and come back from it (`SmallLetter`).
-/
import Mathlib.Data.List.Chain
import SchemaForms.Proofs.Naming.Constants

set_option autoImplicit false

namespace SchemaForms.Naming

open Text

/-! ## Words and how they are written -/

/-- A word of small ASCII letters. -/
def IsSmall (word : List Char) : Prop :=
  word ≠ [] ∧ ∀ c ∈ word, c.isLower = true

/-- The word with its first letter, one of ASCII, as a capital. -/
def initialCapital : List Char → List Char
  | [] => []
  | c :: rest => c.toUpper :: rest

/-- The words run together, each with a capital. -/
def inPascalCase (words : List (List Char)) : List Char :=
  words.flatMap initialCapital

/-- The first word, followed by the others with capitals. -/
def inCamelCase : List (List Char) → List Char
  | [] => []
  | first :: others => first ++ inPascalCase others

/-- The words stand in the text in order, with one or more separators between any two and any
number of them before and behind. -/
inductive Spaced : List (List Char) → List Char → Prop
  | nothing : Spaced [] []
  | separator {words : List (List Char)} {text : List Char} (c : Char)
      (hc : isWordChar c = false) (h : Spaced words text) : Spaced words (c :: text)
  | last (word : List Char) : Spaced [word] word
  | word {words : List (List Char)} {text : List Char} (first : List Char) (c : Char)
      (hc : isWordChar c = false) (h : Spaced words text) :
      Spaced (first :: words) (first ++ c :: text)

/-! ## Small letters -/

/-- A small ASCII letter, which is the lower case of its capital. -/
structure SmallLetter (c : Char) : Prop where
  ascii : c.toNat < 128 ∧ c.toUpper.toNat < 128
  wordChar : isWordChar c = true ∧ isWordChar c.toUpper = true
  lowercase : isLowercase c = true
  uppercase : isUppercase c = false ∧ isUppercase c.toUpper = true
  lowered : c.toLower = c ∧ c.toUpper.toLower = c

theorem SmallLetter.of_isLower {c : Char} (h : c.isLower = true) : SmallLetter c := by
  -- A matter of 26 characters, which stand at the beginning of all tables.
  have hall : ∀ n < 123, 97 ≤ n →
      ((Char.ofNat n).toNat < 128 ∧ (Char.ofNat n).toUpper.toNat < 128) ∧
      (isWordChar (Char.ofNat n) = true ∧ isWordChar (Char.ofNat n).toUpper = true) ∧
      isLowercase (Char.ofNat n) = true ∧
      (isUppercase (Char.ofNat n) = false ∧ isUppercase (Char.ofNat n).toUpper = true) ∧
      (Char.ofNat n).toLower = Char.ofNat n ∧ (Char.ofNat n).toUpper.toLower = Char.ofNat n := by
    decide
  have hrange : (decide (c.val ≥ 'a'.val) && decide (c.val ≤ 'z'.val)) = true := h
  simp only [Bool.and_eq_true, decide_eq_true_eq, ge_iff_le, UInt32.le_iff_toNat_le] at hrange
  obtain ⟨hlow, hhigh⟩ := hrange
  have hletter := hall c.toNat (Nat.lt_succ_of_le hhigh) hlow
  rw [Char.ofNat_toNat] at hletter
  obtain ⟨hascii, hwordChar, hlowercase, huppercase, hlowered⟩ := hletter
  exact ⟨hascii, hwordChar, hlowercase, huppercase, hlowered⟩

namespace IsSmall

variable {word : List Char}

theorem letter (h : IsSmall word) {c : Char} (hc : c ∈ word) : SmallLetter c :=
  .of_isLower (h.2 c hc)

theorem map_toLower (h : IsSmall word) : word.map Char.toLower = word := by
  have hlowered : ∀ c ∈ word, c.toLower = id c := fun c hc => (h.letter hc).lowered.1
  rw [List.map_congr_left hlowered, List.map_id]

theorem lowercase_eq (h : IsSmall word) : lowercase word = word := by
  rw [lowercase_of_ascii fun c hc => (h.letter hc).ascii.1, h.map_toLower]

theorem lowercase_initialCapital (h : IsSmall word) : lowercase (initialCapital word) = word := by
  have hlower := h.map_toLower
  obtain ⟨c, rest, rfl⟩ := List.exists_cons_of_ne_nil h.1
  have hascii : IsAscii (c.toUpper :: rest) := by
    refine List.forall_mem_cons.2 ⟨(h.letter List.mem_cons_self).ascii.2, ?_⟩
    exact fun d hd => (h.letter (List.mem_cons_of_mem c hd)).ascii.1
  rw [initialCapital, lowercase_of_ascii hascii, List.map_cons,
    (h.letter List.mem_cons_self).lowered.2, (List.cons.inj hlower).2]

theorem capitalize_eq (h : IsSmall word) : capitalize word = initialCapital word := by
  obtain ⟨c, rest, rfl⟩ := List.exists_cons_of_ne_nil h.1
  obtain ⟨-, hupper, -⟩ := case_of_ascii (h.letter List.mem_cons_self).ascii.1
  rw [capitalize, hupper, initialCapital, List.singleton_append]

end IsSmall

section

variable {ws : List (List Char)} (hsmall : ∀ word ∈ ws, IsSmall word)

include hsmall

theorem map_lowercase : ws.map lowercase = ws := by
  have hlower : ∀ word ∈ ws, lowercase word = id word :=
    fun word hword => (hsmall word hword).lowercase_eq
  rw [List.map_congr_left hlower, List.map_id]

theorem map_lowercase_initialCapital : (ws.map initialCapital).map lowercase = ws := by
  have hlower : ∀ word ∈ ws, (lowercase ∘ initialCapital) word = id word :=
    fun word hword => (hsmall word hword).lowercase_initialCapital
  rw [List.map_map, List.map_congr_left hlower, List.map_id]

/-- **Camel case of a text whose words are known in lower case.** -/
theorem camelCase_of_lowercase {text : String} (h : (words text.toList).map lowercase = ws) :
    camelCase text = String.ofList (inCamelCase ws) := by
  rw [camelCase_eq, lowerWords, h]
  cases ws with
  | nil => rfl
  | cons first others =>
    rw [List.forall_mem_cons] at hsmall
    have hcapitals : others.flatMap capitalize = others.flatMap initialCapital :=
      List.flatMap_congr fun word hword => (hsmall.2 word hword).capitalize_eq
    rw [joinLower, inCamelCase, inPascalCase, hcapitals]

end

/-! ## Gaps -/

/-- Small letters go on the word, whichever it is. -/
theorem wordsAfter_small {letters : List Char} (h : ∀ c ∈ letters, c.isLower = true)
    (carried rest : List Char) :
    wordsAfter carried (letters ++ rest) = wordsAfter (letters.reverse ++ carried) rest := by
  induction letters generalizing carried with
  | nil => rfl
  | cons c letters ih =>
    rw [List.forall_mem_cons] at h
    have hletter := SmallLetter.of_isLower h.1
    have hgoesOn : carried.head?.any (beginsWord · c (letters ++ rest)) = false := by
      simp [beginsWord, hletter.uppercase.1]
    rw [List.cons_append, wordsAfter, if_neg (by simp [hletter.wordChar.1]),
      if_neg (by simp [hgoesOn]), ih h.2]
    simp

theorem words_of_isSmall {word : List Char} (h : IsSmall word) : words word = [word] := by
  have hpass := wordsAfter_small h.2 [] []
  rw [List.append_nil, List.append_nil] at hpass
  rw [words, hpass, wordsAfter, finished_of_ne_nil (by simpa using h.1), List.reverse_reverse]

/-- **Between gaps every word is found as it is.** -/
theorem words_of_spaced {ws : List (List Char)} {text : List Char} (h : Spaced ws text)
    (hsmall : ∀ word ∈ ws, IsSmall word) : words text = ws := by
  induction h with
  | nothing => rfl
  | @separator ws text c hc h ih =>
    have hparted := words_append_separator hc [] text
    rw [List.nil_append, words_nil, List.nil_append] at hparted
    rw [hparted, ih hsmall]
  | last word => exact words_of_isSmall (hsmall word List.mem_cons_self)
  | word first c hc h ih =>
    rw [List.forall_mem_cons] at hsmall
    rw [words_append_separator hc, words_of_isSmall hsmall.1, ih hsmall.2]
    rfl

/-! ## Capitals -/

/-- The word can be told from the one that is carried, if there is one: that one ends in a small
letter, or it ends in a capital and the word has more than one letter. -/
def CutOff (carried word : List Char) : Prop :=
  ∀ before, carried.head? = some before →
    isLowercase before = true ∨ isUppercase before = true ∧ word.length ≠ 1

/-- Behind a small letter any word can be told. -/
theorem cutOff_of_small {letters : List Char} (h : ∀ c ∈ letters, c.isLower = true)
    (hne : letters ≠ []) (carried word : List Char) : CutOff (letters.reverse ++ carried) word := by
  intro before hbefore
  rw [List.head?_append_of_ne_nil _ (by simpa using hne), List.head?_reverse] at hbefore
  exact .inl (SmallLetter.of_isLower (h before (List.mem_of_getLast? hbefore))).lowercase

theorem cutOff_initialCapital {first word : List Char} (hfirst : IsSmall first)
    (h : first.length ≠ 1 ∨ word.length ≠ 1) : CutOff (initialCapital first).reverse word := by
  obtain ⟨c, letters, rfl⟩ := List.exists_cons_of_ne_nil hfirst.1
  rw [initialCapital, List.reverse_cons]
  by_cases hletters : letters = []
  · -- The capital is the whole word, so the next one is longer.
    have hlength : word.length ≠ 1 := by simpa [hletters] using h
    intro before hbefore
    obtain rfl : c.toUpper = before := by simpa [hletters] using hbefore
    exact .inr ⟨(hfirst.letter List.mem_cons_self).uppercase.2, hlength⟩
  · exact cutOff_of_small (fun d hd => hfirst.2 d (List.mem_cons_of_mem c hd)) hletters _ word

/-- **A capital begins its word**, where this can be told from the one before. -/
theorem wordsAfter_initialCapital {carried word : List Char} (hword : IsSmall word)
    (hcut : CutOff carried word) (rest : List Char) :
    wordsAfter carried (initialCapital word ++ rest) =
      finished carried ++ wordsAfter (initialCapital word).reverse rest := by
  obtain ⟨c, letters, rfl⟩ := List.exists_cons_of_ne_nil hword.1
  have hletter := hword.letter List.mem_cons_self
  have hletters : ∀ d ∈ letters, d.isLower = true :=
    fun d hd => hword.2 d (List.mem_cons_of_mem c hd)
  have hwhole : wordsAfter [c.toUpper] (letters ++ rest) =
      wordsAfter (initialCapital (c :: letters)).reverse rest := by
    rw [wordsAfter_small hletters, initialCapital, List.reverse_cons]
  rw [initialCapital, List.cons_append, wordsAfter, if_neg (by simp [hletter.wordChar.2])]
  by_cases hcarried : carried = []
  · rw [hcarried, if_neg (by simp), hwhole]
    rfl
  · obtain ⟨before, carried, rfl⟩ := List.exists_cons_of_ne_nil hcarried
    have hbegins : beginsWord before c.toUpper (letters ++ rest) = true := by
      rw [beginsWord_iff]
      refine ⟨hletter.uppercase.2, ?_⟩
      rcases hcut before rfl with hsmall | ⟨hcapital, hlength⟩
      · exact .inl hsmall
      · -- Behind a capital the second letter of the word decides.
        have hne : letters ≠ [] := by
          rintro rfl
          simp at hlength
        obtain ⟨d, letters, rfl⟩ := List.exists_cons_of_ne_nil hne
        refine .inr (.inr ⟨hcapital, d, rfl, ?_⟩)
        exact (SmallLetter.of_isLower (hletters d List.mem_cons_self)).lowercase
    rw [List.head?_cons, Option.any_some, if_pos hbegins, hwhole]
    rfl

/-- **In a row of capitals every word is found**, behind the one that is carried. -/
theorem wordsAfter_inPascalCase {ws : List (List Char)} (hsmall : ∀ word ∈ ws, IsSmall word)
    (hapart : ws.IsChain fun v w => v.length ≠ 1 ∨ w.length ≠ 1) {carried : List Char}
    (hcut : ∀ word, ws.head? = some word → CutOff carried word) :
    wordsAfter carried (inPascalCase ws) = finished carried ++ ws.map initialCapital := by
  -- What is carried is the word before, and only for the first may that be any word.
  induction ws generalizing carried with
  | nil => simp [inPascalCase, wordsAfter]
  | cons first others ih =>
    rw [List.forall_mem_cons] at hsmall
    rw [List.isChain_cons] at hapart
    have hnext : ∀ word, others.head? = some word → CutOff (initialCapital first).reverse word :=
      fun word hword => cutOff_initialCapital hsmall.1 (hapart.1 word hword)
    have hfinished : finished (initialCapital first).reverse = [initialCapital first] := by
      obtain ⟨c, letters, rfl⟩ := List.exists_cons_of_ne_nil hsmall.1.1
      rw [finished_of_ne_nil (by simp [initialCapital]), List.reverse_reverse]
    have hrow : inPascalCase (first :: others) = initialCapital first ++ inPascalCase others :=
      List.flatMap_cons
    rw [hrow, wordsAfter_initialCapital hsmall.1 (hcut first rfl), ih hsmall.2 hapart.2 hnext,
      hfinished]
    rfl

section

variable {ws : List (List Char)} (hsmall : ∀ word ∈ ws, IsSmall word)

include hsmall

theorem words_inPascalCase (hapart : ws.IsChain fun v w => v.length ≠ 1 ∨ w.length ≠ 1) :
    words (inPascalCase ws) = ws.map initialCapital :=
  wordsAfter_inPascalCase hsmall hapart fun word _ before hbefore => by simp at hbefore

/-- The first word has no capital, and is there when the row of capitals begins. -/
theorem words_inCamelCase {first : List Char} (hfirst : IsSmall first)
    (hapart : ws.IsChain fun v w => v.length ≠ 1 ∨ w.length ≠ 1) :
    words (inCamelCase (first :: ws)) = first :: ws.map initialCapital := by
  have hcut : ∀ word, ws.head? = some word → CutOff (first.reverse ++ []) word :=
    fun word _ => cutOff_of_small hfirst.2 hfirst.1 [] word
  have hfinished : finished (first.reverse ++ []) = [first] := by
    rw [List.append_nil, finished_of_ne_nil (by simpa using hfirst.1), List.reverse_reverse]
  rw [inCamelCase, words, wordsAfter_small hfirst.2,
    wordsAfter_inPascalCase hsmall hapart hcut, hfinished, List.singleton_append]

end

/-! ## The statement -/

/-- **Camel case does not depend on the style.** Words of small letters, no two of one letter
side by side, have one camel case: the first word, followed by the others with capitals. It is
that of any text in which they stand in order with separators between them, that of the words
run together with a capital each, and its own. -/
theorem camelCase_of_styles {ws : List (List Char)} (hsmall : ∀ word ∈ ws, IsSmall word)
    (hapart : ws.IsChain fun v w => v.length ≠ 1 ∨ w.length ≠ 1) :
    (∀ text : String, Spaced ws text.toList → camelCase text = String.ofList (inCamelCase ws)) ∧
    camelCase (String.ofList (inPascalCase ws)) = String.ofList (inCamelCase ws) ∧
    camelCase (String.ofList (inCamelCase ws)) = String.ofList (inCamelCase ws) := by
  refine ⟨?_, ?_, ?_⟩
  · intro text hspaced
    apply camelCase_of_lowercase hsmall
    rw [words_of_spaced hspaced hsmall, map_lowercase hsmall]
  · apply camelCase_of_lowercase hsmall
    rw [String.toList_ofList, words_inPascalCase hsmall hapart, map_lowercase_initialCapital hsmall]
  · apply camelCase_of_lowercase hsmall
    rw [String.toList_ofList]
    by_cases hws : ws = []
    · simp [hws, inCamelCase]
    · obtain ⟨first, others, rfl⟩ := List.exists_cons_of_ne_nil hws
      rw [List.forall_mem_cons] at hsmall
      rw [List.isChain_cons] at hapart
      rw [words_inCamelCase hsmall.2 hsmall.1 hapart.2, List.map_cons, hsmall.1.lowercase_eq,
        map_lowercase_initialCapital hsmall.2]

/-- Words of one letter at the beginning, in the middle and at the end. -/
theorem camelCase_of_styles_axes :
    camelCase "--x axis_y / label.z!" = "xAxisYLabelZ" ∧
    camelCase "XAxisYLabelZ" = "xAxisYLabelZ" ∧
    camelCase "xAxisYLabelZ" = "xAxisYLabelZ" := by
  have hspaced : Spaced [['x'], "axis".toList, ['y'], "label".toList, ['z']]
      "--x axis_y / label.z!".toList :=
    .separator '-' (by decide) <| .separator '-' (by decide) <|
      .word ['x'] ' ' (by decide) <| .word "axis".toList '_' (by decide) <|
      .word ['y'] ' ' (by decide) <| .separator '/' (by decide) <| .separator ' ' (by decide) <|
      .word "label".toList '.' (by decide) <| .word ['z'] '!' (by decide) .nothing
  obtain ⟨hgaps, hpascal, hcamel⟩ := camelCase_of_styles
    (show ∀ word ∈ [['x'], "axis".toList, ['y'], "label".toList, ['z']], IsSmall word by
      simp [IsSmall])
    (by simp)
  exact ⟨hgaps _ hspaced, hpascal, hcamel⟩

end SchemaForms.Naming
