/-
Patterns in their literals. A pattern of a schema is written between two slashes as it is,
while names and default values are quoted. So it is up to the pattern whether the text is
the literal that is meant. The first half of this module is the converse of what reading
back needed: what the language reads as a regular expression is the body of one, and
nothing is left out or put in (`next?_regex_eq_some`). Together the two directions decide
the matter (`pattern_contained_iff`): patterns that are bodies stay where they are. Others
do not: an empty one or one with an asterisk in front makes a comment, and one with a slash
outside of classes can go on with whatever it likes (`pattern_breaks_out`).
-/
import SchemaForms.Proofs.Render.Spelling

set_option autoImplicit false

namespace SchemaForms.Script

open Naming

/-! ## What is read as a regular expression -/

/-- What has been read up to a closing slash was a body. -/
theorem regexAfter_eq_some {inClass : Bool} {taken s result rest : List Char}
    (h : regexAfter inClass taken s = some (result, rest)) :
    ∃ body, s = body ++ '/' :: rest ∧ result = taken.reverse ++ body ∧
      isBodyFrom inClass body = true := by
  induction inClass, taken, s using regexAfter.induct with
  | case1 inClass taken =>
    rw [regexAfter] at h
    cases h
  | case2 inClass taken c tail hline =>
    rw [regexAfter, if_pos hline] at h
    cases h
  | case3 inClass taken c tail hline ih =>
    -- An escape: both characters belong to the body, whatever the second one is.
    rw [regexAfter, if_neg hline] at h
    obtain ⟨body, rfl, rfl, hbody⟩ := ih h
    refine ⟨'\\' :: c :: body, rfl, by simp, ?_⟩
    rw [isBodyFrom, hbody, Bool.and_true, Bool.not_eq_true']
    exact Bool.eq_false_iff.2 hline
  | case4 inClass taken c tail hescape hstop =>
    rw [regexAfter, if_pos hstop] at h
    · cases h
    · exact hescape
  | case5 inClass taken c tail hescape hstop hslash =>
    -- The closing slash: the body is at its end, and no class is open.
    rw [regexAfter, if_neg hstop, if_pos hslash] at h
    · obtain ⟨rfl, rfl⟩ := Prod.mk.inj (Option.some.inj h)
      rw [Bool.and_eq_true, beq_iff_eq] at hslash
      obtain ⟨rfl, hopen⟩ := hslash
      exact ⟨[], rfl, (List.append_nil _).symm, hopen⟩
    · exact hescape
  | case6 inClass taken c tail hescape hstop hslash ih =>
    -- Any other character, which may open a class or close it.
    rw [regexAfter, if_neg hstop, if_neg hslash] at h
    · obtain ⟨body, rfl, rfl, hbody⟩ := ih h
      rw [Bool.or_eq_true, not_or, Bool.not_eq_true, beq_iff_eq] at hstop
      refine ⟨c :: body, rfl, by simp, ?_⟩
      rw [isBodyFrom, hbody, Bool.and_true, Bool.and_eq_true, Bool.not_eq_true', Bool.not_eq_true']
      · exact ⟨hstop.1, Bool.eq_false_iff.2 hslash⟩
      · exact fun heq _ => hstop.2 heq
      · exact fun _ _ heq _ => hstop.2 heq
    · exact hescape

/-- **Only the body of a regular expression is read as one.** -/
theorem next?_regex_eq_some {s rest : List Char} {body : String}
    (h : next? ('/' :: s) = some (.regex body, rest)) :
    isRegexBody body = true ∧ s = body.toList ++ '/' :: rest := by
  rw [next?_of_not_blank (by decide)] at h
  change (regex? s).map (fun x => (Token.regex (String.ofList x.1), x.2)) = _ at h
  obtain ⟨⟨chars, behind⟩, hregex, heq⟩ := Option.map_eq_some_iff.1 h
  obtain ⟨hbody, rfl⟩ := Prod.mk.inj heq
  obtain rfl := Token.regex.inj hbody
  unfold regex? at hregex
  split at hregex
  · cases hregex
  · cases hregex
  · rename_i hasterisk hslash
    split at hregex
    · rename_i found after hafter
      split at hregex
      · cases hregex
      · obtain ⟨rfl, rfl⟩ := Prod.mk.inj (Option.some.inj hregex)
        obtain ⟨body, rfl, rfl, hfrom⟩ := regexAfter_eq_some hafter
        dsimp only
        rw [isRegexBody, String.toList_ofList]
        refine ⟨?_, rfl⟩
        -- Neither nothing nor an asterisk: these would have begun a comment.
        split
        · exact (hslash _ rfl).elim
        · exact (hasterisk _ rfl).elim
        · exact hfrom
    · cases hregex

/-- An expression that is a regular expression is its literal. -/
theorem Reads.next?_eq_regex {s rest : List Char} {body : String}
    (h : Reads s (.regex body) rest) : next? s = some (.regex body, rest) := by
  cases h with
  | @literal _ _ token _ first value =>
    cases token with
    | regex found =>
      obtain rfl := Expr.regex.inj (Option.some.inj value)
      exact first
    | word name =>
      -- Words are null and truth values, if they are literals at all.
      rw [Token.literal?] at value
      split at value
      · cases value
      split at value
      · cases value
      split at value
      · cases value
      · cases value
    | text value' => cases value
    | numeral value' => cases value
    | mark c => cases value

/-- A call with a regular expression for its only argument has the literal of it right
behind the bracket. -/
theorem Reads.argument_eq_regex {owner name body : String} {s rest : List Char}
    (howner : isIdentifier owner = true) (hname : isIdentifier name = true)
    (h : Reads (owner.toList ++ '.' :: (name.toList ++ '(' :: s))
      (.call owner name [.regex body]) rest) :
    ∃ after, next? s = some (.regex body, after) := by
  cases h with
  | literal first value => exact absurd (shape_of_literal? value).2 nofun
  | call first _ dot last opening inside =>
    obtain ⟨-, rfl⟩ := next?_unique (next?_word_cons howner (by decide) _) first
    obtain ⟨-, rfl⟩ := next?_unique (next?_mark (by decide) _) dot
    obtain ⟨-, rfl⟩ := next?_unique (next?_word_cons hname (by decide) _) last
    obtain ⟨-, rfl⟩ := next?_unique (next?_mark (by decide) _) opening
    cases inside with
    | last head closing => exact ⟨_, head.next?_eq_regex⟩
    | cons head comma tail => exact ⟨_, head.next?_eq_regex⟩

end SchemaForms.Script

namespace SchemaForms

open Script

/-! ## The text of a pattern -/

/-- The text of a pattern, cut at the marks of the call. -/
theorem toList_pattern (expression : String) :
    (Angular.validator (.pattern expression)).toList = "Validators".toList ++
      '.' :: ("pattern".toList ++ '(' :: '/' :: (expression.toList ++ ['/', ')'])) := by
  have hvalidator : Angular.validator (.pattern expression) =
      "Validators.pattern(/" ++ expression ++ "/)" := rfl
  have hopening : "Validators.pattern(/".toList =
      "Validators".toList ++ '.' :: ("pattern".toList ++ ['(', '/']) := by decide
  have hclosing : "/)".toList = ['/', ')'] := by decide
  rw [hvalidator, String.toList_append, String.toList_append, hopening, hclosing]
  generalize "Validators".toList = owner
  generalize "pattern".toList = name
  simp only [List.append_assoc, List.cons_append, List.nil_append]

/-- **A pattern stays in its literal exactly when it is the body of one.** At the first
slash of the text begins a literal that holds the pattern and ends in front of the last
bracket, if and only if the pattern can be the body of a regular expression; and exactly
then the text is one call with this literal for its only argument, whatever comes behind. -/
theorem pattern_contained_iff (expression : String) :
    (Angular.validator (.pattern expression)).toList =
        "Validators.pattern(".toList ++ '/' :: (expression.toList ++ ['/', ')']) ∧
      (next? ('/' :: (expression.toList ++ ['/', ')'])) = some (.regex expression, [')']) ↔
        isRegexBody expression = true) ∧
      (Stands (Angular.validator (.pattern expression)).toList
          (.call "Validators" "pattern" [.regex expression]) ↔
        isRegexBody expression = true) := by
  refine ⟨?_, ⟨fun h => (next?_regex_eq_some h).1, fun h => ?_⟩, ⟨fun h => ?_, fun h => ?_⟩⟩
  · have hopening : "Validators.pattern(".toList =
        "Validators".toList ++ '.' :: ("pattern".toList ++ ['(']) := by decide
    rw [toList_pattern, hopening, List.append_assoc, List.cons_append, List.append_assoc]
    rfl
  · refine next?_regex h fun c hc => ?_
    obtain rfl := Option.some.inj hc
    decide
  · -- Nothing need come behind the call to see what its argument is.
    have hread := h []
    rw [List.append_nil, toList_pattern] at hread
    obtain ⟨after, hnext⟩ := hread.argument_eq_regex (by decide) (by decide)
    exact (next?_regex_eq_some hnext).1
  · have hstands := stands_call "Validators" "pattern" (by decide) (by decide) (by decide)
      (spells_regex h)
    rw [toList_pattern]
    simpa only [List.cons_append, List.append_assoc, List.nil_append] using hstands

/-- A pattern with slashes breaks out: its literal ends at the first of them, and the call
goes on with a comma and another argument. -/
theorem pattern_breaks_out :
    next? ('/' :: ("a/,/b".toList ++ ['/', ')'])) = some (.regex "a", ",/b/)".toList) ∧
      ¬∃ rest, next? ('/' :: ("a/,/b".toList ++ ['/', ')'])) =
        some (.regex "a/,/b", rest) := by
  have hread : next? ('/' :: ("a/,/b".toList ++ ['/', ')'])) =
      some (.regex "a", ",/b/)".toList) := by rfl
  refine ⟨hread, fun ⟨rest, h⟩ => ?_⟩
  obtain ⟨hbody, -⟩ := next?_unique hread h
  exact absurd (Token.regex.inj hbody) (by decide)

end SchemaForms
