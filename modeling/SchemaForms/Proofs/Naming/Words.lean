/-
Words as a partition of a name. The words of a text are found in one pass, which carries the
word under construction and decides at a capital by what stands before and behind it. Here is
what comes out, without the pass (`words_partition`):

- no word is empty, all of them hold letters and numbers only, and run together they are the
  text without its separators;
- between neighbouring letters or numbers there is a break exactly in front of a capital that
  follows a small letter or a digit, or that follows a capital and has a small letter behind it;
- the character before a capital, which is looked at by its place, is always there;
- separators count for nothing but for where they stand: the words are those of the runs of
  letters and numbers, each by itself.

The first two come from what one step of the pass does (`exists_step`), carried over a stretch
of text (`exists_stretch`). The last needs a fact about characters: a small letter is a letter,
so a capital at the end of a run cannot mistake the separator behind it for one.
-/
import SchemaForms.Naming
import SchemaForms.Proofs.Text.Letters

set_option autoImplicit false

namespace SchemaForms.Naming

open Text

/-! ## The pass -/

theorem flatten_finished (word : List Char) : (finished word).flatten = word.reverse := by
  cases word with
  | nil => rfl
  | cons c word => simp [finished]

theorem nil_not_mem_finished (word : List Char) : [] ∉ finished word := by
  cases word <;> simp [finished]

theorem finished_of_ne_nil {word : List Char} (h : word ≠ []) : finished word = [word.reverse] := by
  cases word with
  | nil => contradiction
  | cons c word => rfl

@[simp] theorem words_nil : words [] = [] := rfl

/-- What the pass holds behind a character: the words it has finished, none of them empty, and
the word it carries, backwards. Nothing is lost but a separator, and a letter or number is the
last character of the word that is carried on. -/
structure Step (word : List Char) (c : Char) (done : List (List Char)) (carried : List Char) :
    Prop where
  nonempty : [] ∉ done
  kept : done.flatten ++ carried.reverse = word.reverse ++ [c].filter isWordChar
  ends : isWordChar c = true → carried.head? = some c

/-- **One step of the pass.** -/
theorem exists_step (word : List Char) (c : Char) (rest : List Char) : ∃ done carried,
    wordsAfter word (c :: rest) = done ++ wordsAfter carried rest ∧ Step word c done carried := by
  rw [wordsAfter]
  by_cases hc : isWordChar c = true
  · rw [if_neg (by simp [hc])]
    split
    · refine ⟨finished word, [c], rfl, nil_not_mem_finished word, ?_, fun _ => rfl⟩
      simp [flatten_finished, hc]
    · exact ⟨[], c :: word, rfl, by simp, by simp [hc], fun _ => rfl⟩
  · rw [if_pos (by simpa using hc)]
    refine ⟨finished word, [], rfl, nil_not_mem_finished word, ?_, fun h => absurd h hc⟩
    simp [flatten_finished, hc]

/-- **A stretch of the pass**, over some text and up to any rest. -/
theorem exists_stretch (word before rest : List Char) : ∃ done carried,
    wordsAfter word (before ++ rest) = done ++ wordsAfter carried rest ∧
      [] ∉ done ∧ done.flatten ++ carried.reverse = word.reverse ++ before.filter isWordChar := by
  induction before generalizing word with
  | nil => exact ⟨[], word, rfl, by simp, by simp⟩
  | cons c before ih =>
    obtain ⟨done, carried, hstep, hspec⟩ := exists_step word c (before ++ rest)
    obtain ⟨others, last, hstretch, hnonempty, hkept⟩ := ih carried
    refine ⟨done ++ others, last, ?_, ?_, ?_⟩
    · rw [List.cons_append, hstep, hstretch, List.append_assoc]
    · simp [hspec.nonempty, hnonempty]
    · calc (done ++ others).flatten ++ last.reverse
          = done.flatten ++ (others.flatten ++ last.reverse) := by simp
        _ = (done.flatten ++ carried.reverse) ++ before.filter isWordChar := by
            rw [hkept, List.append_assoc]
        _ = word.reverse ++ ([c].filter isWordChar ++ before.filter isWordChar) := by
            rw [hspec.kept, List.append_assoc]
        _ = word.reverse ++ (c :: before).filter isWordChar := by
            rw [← List.filter_append, List.singleton_append]

/-- Over the whole text, the word that is carried at the end is the last one. -/
theorem exists_wordsAfter_eq (word s : List Char) : ∃ done carried,
    wordsAfter word s = done ++ finished carried ∧
      [] ∉ done ∧ done.flatten ++ carried.reverse = word.reverse ++ s.filter isWordChar := by
  have hstretch := exists_stretch word s []
  rwa [List.append_nil] at hstretch

theorem flatten_wordsAfter (word s : List Char) :
    (wordsAfter word s).flatten = word.reverse ++ s.filter isWordChar := by
  obtain ⟨done, carried, hwords, -, hkept⟩ := exists_wordsAfter_eq word s
  rw [hwords, List.flatten_append, flatten_finished, hkept]

/-- **Cutting into words loses the separators and nothing else.** -/
theorem flatten_words (s : List Char) : (words s).flatten = s.filter isWordChar :=
  flatten_wordsAfter [] s

theorem nil_not_mem_wordsAfter (word s : List Char) : [] ∉ wordsAfter word s := by
  obtain ⟨done, carried, hwords, hnonempty, -⟩ := exists_wordsAfter_eq word s
  rw [hwords, List.mem_append, not_or]
  exact ⟨hnonempty, nil_not_mem_finished carried⟩

/-- No word is empty. -/
theorem ne_nil_of_mem_words {s word : List Char} (h : word ∈ words s) : word ≠ [] := by
  rintro rfl
  exact nil_not_mem_wordsAfter [] s h

theorem isWordChar_of_mem_words {s word : List Char} (h : word ∈ words s) {c : Char}
    (hc : c ∈ word) : isWordChar c = true := by
  have hmem : c ∈ (words s).flatten := List.mem_flatten.2 ⟨word, h, hc⟩
  rw [flatten_words] at hmem
  exact (List.mem_filter.1 hmem).2

/-! ## Breaks -/

/-- A word ends with the letters and numbers of the text before, and another begins with those
of the text behind. -/
def BreakBetween (words : List (List Char)) (before behind : List Char) : Prop :=
  ∃ earlier later, words = earlier ++ later ∧
    earlier.flatten = before.filter isWordChar ∧ later.flatten = behind.filter isWordChar

/-- The word under construction is the beginning of the first word to come. -/
theorem exists_wordsAfter_eq_cons {word : List Char} (hword : word ≠ []) (s : List Char) :
    ∃ more others, wordsAfter word s = (word.reverse ++ more) :: others := by
  induction s generalizing word with
  | nil => exact ⟨[], [], by simp [wordsAfter, finished_of_ne_nil hword]⟩
  | cons c s ih =>
    rw [wordsAfter, finished_of_ne_nil hword]
    split
    · exact ⟨[], wordsAfter [] s, by simp⟩
    · split
      · exact ⟨[], wordsAfter [c] s, by simp⟩
      · obtain ⟨more, others, hwords⟩ := ih (List.cons_ne_nil c word)
        exact ⟨c :: more, others, by simp [hwords]⟩

/-- A text that ends inside a word is not made up of the words up to some place. -/
theorem length_flatten_ne {done others earlier later : List (List Char)} {word : List Char}
    (h : done ++ word :: others = earlier ++ later) {n : Nat} (hbegun : done.flatten.length < n)
    (hgoesOn : n < done.flatten.length + word.length) : earlier.flatten.length ≠ n := by
  rcases List.append_eq_append_iff.1 h with ⟨between, rfl, hlater⟩ | ⟨between, rfl, -⟩
  · by_cases hbetween : between = []
    · simp only [hbetween, List.append_nil]
      omega
    · obtain ⟨first, between, rfl⟩ := List.exists_cons_of_ne_nil hbetween
      obtain ⟨rfl, -⟩ := List.cons.inj hlater
      simp only [List.flatten_append, List.flatten_cons, List.length_append]
      omega
  · rw [List.flatten_append, List.length_append] at hbegun
    omega

section

variable {c d : Char}

/-- Behind a letter or number the pass has some words done, and carries one that ends in it. -/
theorem exists_words_eq (hc : isWordChar c = true) (before rest : List Char) : ∃ done word,
    words (before ++ c :: rest) = done ++ wordsAfter (c :: word) rest ∧
      done.flatten ++ (c :: word).reverse = (before ++ [c]).filter isWordChar := by
  obtain ⟨done, word, hbefore, -, hdone⟩ := exists_stretch [] before (c :: rest)
  obtain ⟨further, carried, hstep, hspec⟩ := exists_step word c rest
  obtain ⟨word', rfl⟩ := List.head?_eq_some_iff.1 (hspec.ends hc)
  refine ⟨done ++ further, word', ?_, ?_⟩
  · rw [words, hbefore, hstep, List.append_assoc]
  · rw [List.flatten_append, List.append_assoc, hspec.kept, ← List.append_assoc, hdone,
      List.filter_append]
    rfl

/-- **There is a break exactly where the pass begins a word.** -/
theorem breakBetween_iff (hc : isWordChar c = true) (hd : isWordChar d = true)
    (before behind : List Char) :
    BreakBetween (words (before ++ c :: d :: behind)) (before ++ [c]) (d :: behind) ↔
      beginsWord c d behind = true := by
  obtain ⟨done, word, hwords, hdone⟩ := exists_words_eq hc before (d :: behind)
  rw [hwords, wordsAfter, if_neg (by simp [hd]), List.head?_cons, Option.any_some]
  by_cases hbegins : beginsWord c d behind = true
  · rw [if_pos hbegins, finished_of_ne_nil (List.cons_ne_nil c word), ← List.append_assoc]
    refine iff_of_true ⟨done ++ [(c :: word).reverse], wordsAfter [d] behind, rfl, ?_, ?_⟩ hbegins
    · rw [← hdone]
      simp
    · rw [flatten_wordsAfter]
      simp [hd]
  · rw [if_neg hbegins]
    refine iff_of_false ?_ hbegins
    rintro ⟨earlier, later, hparted, hearlier, -⟩
    -- One word holds both characters, so it goes on where the letters and numbers up to `c` end.
    obtain ⟨more, others, hnext⟩ :=
      exists_wordsAfter_eq_cons (List.cons_ne_nil d (c :: word)) behind
    have hlength := congrArg List.length hdone
    rw [List.length_append, List.length_reverse, List.length_cons] at hlength
    rw [hnext] at hparted
    apply length_flatten_ne hparted (by omega : _ < ((before ++ [c]).filter isWordChar).length)
    · simp only [List.length_append, List.length_reverse, List.length_cons]
      omega
    · rw [hearlier]

/-- When the capital `d` begins a word behind `c`. -/
theorem beginsWord_iff (behind : List Char) : beginsWord c d behind = true ↔
    isUppercase d = true ∧ (isLowercase c = true ∨ c.isDigit = true ∨
      isUppercase c = true ∧ ∃ e, behind.head? = some e ∧ isLowercase e = true) := by
  simp only [beginsWord, Bool.and_eq_true, Bool.or_eq_true, Option.any_eq_true, or_assoc]

end

/-! ## Places

The pass looks at the last character of the word it carries. Looking at the character before
the place it has come to is the same, and there always is one. -/

/-- The character before a place. The first place has none. -/
def characterBefore? (s : List Char) : Nat → Option Char
  | 0 => none
  | place + 1 => s[place]?

/-- The pass with the places of its characters: what stands before and behind a capital is
looked up in the text, and without a character before it there is no answer. -/
def wordsByPlace? (s : List Char) (place : Nat) (word : List Char) :
    List Char → Option (List (List Char))
  | [] => some (finished word)
  | c :: rest =>
    if !isWordChar c then
      (wordsByPlace? s (place + 1) [] rest).map (finished word ++ ·)
    else if isUppercase c && !word.isEmpty then
      match characterBefore? s place with
      | none => none
      | some before =>
        if isLowercase before || before.isDigit ||
            isUppercase before && s[place + 1]?.any isLowercase then
          (wordsByPlace? s (place + 1) [c] rest).map (finished word ++ ·)
        else
          wordsByPlace? s (place + 1) (c :: word) rest
    else
      wordsByPlace? s (place + 1) (c :: word) rest

/-- The pass has come to the place: the rest is what the text has from there on, and a word
that is carried ends in the character before. -/
structure ComeTo (s : List Char) (place : Nat) (word rest : List Char) : Prop where
  rest_eq : s.drop place = rest
  before_eq : ∀ c, word.head? = some c → characterBefore? s place = some c

namespace ComeTo

variable {s word rest : List Char} {place : Nat} {c : Char}

theorem start (s : List Char) : ComeTo s 0 [] s :=
  ⟨rfl, by simp⟩

theorem rest_eq_succ (h : ComeTo s place word (c :: rest)) : s.drop (place + 1) = rest := by
  rw [← List.tail_drop, h.rest_eq, List.tail_cons]

theorem separator (h : ComeTo s place word (c :: rest)) : ComeTo s (place + 1) [] rest :=
  ⟨h.rest_eq_succ, by simp⟩

theorem character (h : ComeTo s place word (c :: rest)) (carried : List Char) :
    ComeTo s (place + 1) (c :: carried) rest := by
  have hplace : s[place]? = some c := by
    rw [← List.head?_drop, h.rest_eq, List.head?_cons]
  refine ⟨h.rest_eq_succ, ?_⟩
  intro d hd
  rw [← hd]
  exact hplace

/-- **Looking by place never fails**, and gives the same words. -/
theorem wordsByPlace?_eq (h : ComeTo s place word rest) :
    wordsByPlace? s place word rest = some (wordsAfter word rest) := by
  induction rest generalizing place word with
  | nil => rfl
  | cons c rest ih =>
    have hbehind : s[place + 1]? = rest.head? := by rw [← h.rest_eq_succ, List.head?_drop]
    unfold wordsByPlace? wordsAfter
    rw [ih h.separator, ih (h.character []), ih (h.character word), hbehind]
    by_cases hc : isWordChar c = true
    · simp only [hc, Bool.not_true, Bool.false_eq_true, if_false, Option.map_some]
      by_cases hword : word = []
      · simp [hword]
      · obtain ⟨before, hbefore⟩ := Option.isSome_iff_exists.1 (List.isSome_head?.2 hword)
        rw [h.before_eq before hbefore, hbefore]
        by_cases hupper : isUppercase c = true
        · simp [beginsWord, hupper, hword, apply_ite some]
        · simp [beginsWord, hupper]
    · simp [hc]

end ComeTo

/-! ## Runs -/

/-- The runs of a text: its longest stretches of letters and numbers, in order. -/
def runs (s : List Char) : List (List Char) :=
  (s.splitOnP fun c => !isWordChar c).filter fun run => !run.isEmpty

section

variable {x : Char} (hx : isWordChar x = false)

include hx

/-- A separator is no small letter, so in front of it is as at the end of a text. -/
theorem beginsWord_append_separator (before c : Char) (rest behind : List Char) :
    beginsWord before c (rest ++ x :: behind) = beginsWord before c rest := by
  have hnotSmall : isLowercase x = false := by
    by_contra h
    have hletter := isAlphabetic_of_isLowercase (Bool.not_eq_false _ ▸ h)
    simp [isWordChar, hletter] at hx
  by_cases hrest : rest = []
  · simp [beginsWord, hrest, hnotSmall]
  · obtain ⟨d, rest, rfl⟩ := List.exists_cons_of_ne_nil hrest
    simp [beginsWord]

theorem wordsAfter_append_separator (word before behind : List Char) :
    wordsAfter word (before ++ x :: behind) = wordsAfter word before ++ words behind := by
  induction before generalizing word with
  | nil => simp [wordsAfter, words, hx]
  | cons c before ih =>
    simp only [List.cons_append, wordsAfter, beginsWord_append_separator hx]
    split
    · rw [ih, List.append_assoc]
    · split
      · rw [ih, List.append_assoc]
      · rw [ih]

/-- **A separator parts the words before it from those behind it.** -/
theorem words_append_separator (before behind : List Char) :
    words (before ++ x :: behind) = words before ++ words behind :=
  wordsAfter_append_separator hx [] before behind

theorem runs_append_separator (before behind : List Char) :
    runs (before ++ x :: behind) = runs before ++ runs behind := by
  unfold runs
  rw [List.splitOnP_append_cons before behind (by simp [hx]), List.filter_append]

end

theorem runs_of_wordChars {s : List Char} (h : ∀ c ∈ s, isWordChar c = true) :
    runs s = if s.isEmpty then [] else [s] := by
  have hsplit : s.splitOnP (fun c => !isWordChar c) = [s] :=
    List.splitOnP_eq_singleton fun c hc => by simp [h c hc]
  rw [runs, hsplit]
  cases s <;> simp

/-- **Words are found in each run by itself.** -/
theorem words_eq_flatMap_runs (s : List Char) : words s = (runs s).flatMap words := by
  by_cases h : ∀ c ∈ s, isWordChar c = true
  · rw [runs_of_wordChars h]
    by_cases hs : s = []
    · simp [hs]
    · simp [hs]
  · -- Parted at any separator, the text leaves two shorter ones.
    simp only [not_forall, Bool.not_eq_true] at h
    obtain ⟨x, hmem, hx⟩ := h
    obtain ⟨before, behind, heq⟩ := List.append_of_mem hmem
    rw [heq, words_append_separator hx, runs_append_separator hx, List.flatMap_append,
      words_eq_flatMap_runs before, words_eq_flatMap_runs behind]
termination_by s.length
decreasing_by all_goals (rw [heq, List.length_append, List.length_cons]; omega)

/-! ## The statement -/

/-- **Words are an exact partition of a name.** They are not empty and hold letters and numbers
only, nothing but separators is lost, and between two letters or numbers that stand side by side
there is a break exactly where a capital shows one. The character before a capital is looked at
in places that have one. The words are those of the runs, so names that have the same runs
have the same words and the same camel case, whatever separates them. -/
theorem words_partition (name : String) :
    (∀ word ∈ words name.toList, word ≠ [] ∧ ∀ c ∈ word, isWordChar c = true) ∧
    (words name.toList).flatten = name.toList.filter isWordChar ∧
    (∀ (before : List Char) (c d : Char) (behind : List Char),
      name.toList = before ++ c :: d :: behind → isWordChar c = true → isWordChar d = true →
        (BreakBetween (words name.toList) (before ++ [c]) (d :: behind) ↔
          isUppercase d = true ∧ (isLowercase c = true ∨ c.isDigit = true ∨
            isUppercase c = true ∧ ∃ e, behind.head? = some e ∧ isLowercase e = true))) ∧
    wordsByPlace? name.toList 0 [] name.toList = some (words name.toList) ∧
    words name.toList = (runs name.toList).flatMap words ∧
    ∀ other : String, runs other.toList = runs name.toList →
      words other.toList = words name.toList ∧ camelCase other = camelCase name := by
  refine ⟨?_, flatten_words name.toList, ?_, (ComeTo.start name.toList).wordsByPlace?_eq,
    words_eq_flatMap_runs name.toList, ?_⟩
  · intro word hword
    exact ⟨ne_nil_of_mem_words hword, fun c hc => isWordChar_of_mem_words hword hc⟩
  · intro before c d behind hname hc hd
    rw [hname, breakBetween_iff hc hd, beginsWord_iff]
  · intro other hruns
    have hwords : words other.toList = words name.toList := by
      rw [words_eq_flatMap_runs other.toList, hruns, ← words_eq_flatMap_runs]
    exact ⟨hwords, by rw [camelCase, hwords, camelCase]⟩

theorem words_partition_request :
    BreakBetween (words "XMLHttp 2Go".toList) "XML".toList "Http 2Go".toList ∧
    ¬BreakBetween (words "XMLHttp 2Go".toList) "XM".toList "LHttp 2Go".toList ∧
    camelCase "--XMLHttp__2Go" = camelCase "XMLHttp 2Go" := by
  obtain ⟨-, -, hbreaks, -, -, hruns⟩ := words_partition "XMLHttp 2Go"
  have hhttp := hbreaks ['X', 'M'] 'L' 'H' "ttp 2Go".toList (by decide) (by decide) (by decide)
  have hinside := hbreaks ['X'] 'M' 'L' "Http 2Go".toList (by decide) (by decide) (by decide)
  rw [← beginsWord_iff] at hhttp hinside
  refine ⟨hhttp.2 (by decide), ?_, (hruns "--XMLHttp__2Go" (by decide)).2⟩
  intro h
  exact absurd (hinside.1 h) (by decide)

end SchemaForms.Naming
