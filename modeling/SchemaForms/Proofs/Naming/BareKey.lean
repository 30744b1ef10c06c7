/-
When a name may stand without quotation marks. A key in a generated file is written bare if
its characters are letters, numbers, low lines and dollar signs, and no number comes first.
The language has a rule of its own for names of properties, which goes by two properties of
the Unicode standard, and the two rules are not the same: the standard counts as letters and
numbers more than it wants in identifiers. So a name such as `x²` is written bare and is no
name for the language (`squared_written_bare`).

How far the rules are apart is a matter of tables. The main statement
(`bareKey_isIdentifierName_iff`) lists the characters that make the difference: of names that
are written bare, those without such characters are good, and no others.
-/
import SchemaForms.Proofs.Text.Difference
import SchemaForms.Render.Angular

set_option autoImplicit false

namespace SchemaForms

open Text

/-! ## Names of the language -/

/-- May a name begin with the character? -/
def Script.startsName (c : Char) : Bool :=
  c == '$' || c == '_' || startsIdentifier c

/-- May a name go on with the character? -/
def Script.continuesName (c : Char) : Bool :=
  c == '$' || continuesIdentifier c

/-- Is the text a name, by the rule of the language? -/
def Script.isIdentifierName (name : String) : Bool :=
  match name.toList with
  | [] => false
  | first :: rest => startsName first && rest.all continuesName

/-! ## Character by character -/

namespace Naming

/-- The two marks that names may begin with are no letters. -/
theorem ne_of_isAlphabetic {c : Char} (h : isAlphabetic c = true) : c ≠ '$' ∧ c ≠ '_' := by
  constructor
  · rintro rfl
    exact absurd h (by decide)
  · rintro rfl
    exact absurd h (by decide)

/-- **The first character of a name that is written bare** begins a name of the language
unless it is one of the alphabetic characters that may not come first. -/
theorem startsName_iff {c : Char} (h : isIdentifierStart c = true) :
    Script.startsName c = true ↔ isNeverFirst c = false := by
  by_cases hletter : isAlphabetic c = true
  · obtain ⟨hdollar, hline⟩ := ne_of_isAlphabetic hletter
    have hstarts : Script.startsName c = startsIdentifier c := by
      simp [Script.startsName, hdollar, hline]
    rw [hstarts, ← Bool.not_eq_true, isNeverFirst_iff]
    simp [hletter]
  · -- Only the two marks are left, and these the language has too.
    have hmark : c = '_' ∨ c = '$' := by simpa [isIdentifierStart, hletter] using h
    have hstarts : Script.startsName c = true := by
      rcases hmark with rfl | rfl <;> rfl
    have hnever : isNeverFirst c = false := by
      rw [← Bool.not_eq_true, isNeverFirst_iff]
      exact fun hboth => hletter hboth.1
    simp [hstarts, hnever]

/-- **A further character of such a name** goes on a name of the language unless it is a
number or a letter that the standard does not want in identifiers. -/
theorem continuesName_iff {c : Char} (h : isIdentifierPart c = true) :
    Script.continuesName c = true ↔ isOtherNumber c = false ∧ isEnclosed c = false := by
  rw [← Bool.not_eq_true, ← Bool.not_eq_true, isOtherNumber_iff, isEnclosed_iff]
  by_cases hword : isWordChar c = true
  · have hdollar : c ≠ '$' := by
      rintro rfl
      exact absurd hword (by decide)
    have hcontinues : Script.continuesName c = continuesIdentifier c := by
      simp [Script.continuesName, hdollar]
    rw [isWordChar, Bool.or_eq_true] at hword
    rw [hcontinues]
    by_cases hgood : continuesIdentifier c = true
    · simp [hgood]
    · -- A letter or a number, and either way one of the exceptions.
      rw [Bool.not_eq_true] at hgood
      simp only [hgood, and_true, Bool.false_eq_true, false_iff]
      exact fun hneither => hword.elim hneither.2 hneither.1
  · -- Again the two marks are left: the language has them, and the exceptions do not.
    have hmark : c = '_' ∨ c = '$' := by simpa [isIdentifierPart, hword] using h
    have hcontinues : Script.continuesName c = true := by
      rcases hmark with rfl | rfl
      · decide
      · rfl
    have hneither : isAlphabetic c = false ∧ isNumeric c = false := by
      simpa [isWordChar] using hword
    simp [hcontinues, hneither]

/-- Below the first of the exceptions there are none. -/
theorem plain_of_ascii {c : Char} (h : c.toNat < 128) :
    isNeverFirst c = false ∧ isOtherNumber c = false ∧ isEnclosed c = false := by
  refine ⟨?_, ?_, ?_⟩
  · rw [isNeverFirst, neverFirstTable, CharTable.contains, if_pos (by omega)]
  · rw [isOtherNumber, otherNumberTable, CharTable.contains, if_pos (by omega)]
  · rw [isEnclosed, enclosedTable, CharTable.contains, if_pos (by omega)]

end Naming

/-! ## Keys -/

/-- Quoting makes a text longer. -/
theorem length_lt_length_quote (s : String) :
    s.toList.length < (Angular.quote s).toList.length := by
  -- No character is lost, and there are two quotation marks.
  have hescape : ∀ c, 0 < (Angular.escape c).length := by
    intro c
    unfold Angular.escape
    split <;> simp
  have hle : ∀ chars : List Char, chars.length ≤ (chars.flatMap Angular.escape).length := by
    intro chars
    induction chars with
    | nil => simp
    | cons c rest ih =>
      have := hescape c
      simp only [List.flatMap_cons, List.length_append, List.length_cons]
      omega
  have := hle s.toList
  rw [Angular.quote, String.toList_ofList]
  simp only [List.cons_append, List.length_cons, List.length_append, List.length_nil]
  omega

/-- A key is the name itself exactly when the name passes for an identifier. -/
theorem propertyKey_eq_self_iff (name : String) :
    Angular.propertyKey name = name ↔ Naming.isIdentifier name = true := by
  unfold Angular.propertyKey
  by_cases h : Naming.isIdentifier name = true
  · simp [h]
  · rw [if_neg h]
    refine iff_of_false ?_ h
    intro heq
    have := length_lt_length_quote name
    rw [heq] at this
    omega

/-- **When a key that is written bare is a name of the language.** A key is bare when the name
passes for an identifier. Such a name is one for the language exactly when it does not begin
with an alphabetic character that the standard wants behind others only, and none of the
characters that follow is a number or a letter that the standard does not want in
identifiers. Names in ASCII have no such characters, so they are always good. -/
theorem bareKey_isIdentifierName_iff (name : String) :
    (Angular.propertyKey name = name ↔ Naming.isIdentifier name = true) ∧
    (Naming.isIdentifier name = true →
      (Script.isIdentifierName name = true ↔
        (∀ c, name.toList.head? = some c → isNeverFirst c = false) ∧
        ∀ c ∈ name.toList.tail, isOtherNumber c = false ∧ isEnclosed c = false)) ∧
    (Naming.isIdentifier name = true → (∀ c ∈ name.toList, c.toNat < 128) →
      Script.isIdentifierName name = true) := by
  have hiff : Naming.isIdentifier name = true →
      (Script.isIdentifierName name = true ↔
        (∀ c, name.toList.head? = some c → isNeverFirst c = false) ∧
        ∀ c ∈ name.toList.tail, isOtherNumber c = false ∧ isEnclosed c = false) := by
    intro h
    unfold Naming.isIdentifier at h
    unfold Script.isIdentifierName
    cases hname : name.toList with
    | nil =>
      rw [hname] at h
      cases h
    | cons first rest =>
      rw [hname] at h
      dsimp only at h ⊢
      rw [Bool.and_eq_true, List.all_eq_true] at h
      rw [Bool.and_eq_true, Naming.startsName_iff h.1, List.all_eq_true, List.head?_cons,
        List.tail_cons]
      refine and_congr (by simp) ?_
      exact forall₂_congr fun c hc => Naming.continuesName_iff (h.2 c hc)
  refine ⟨propertyKey_eq_self_iff name, hiff, ?_⟩
  intro h hascii
  apply (hiff h).2
  constructor
  · intro c hc
    exact (Naming.plain_of_ascii (hascii c (List.mem_of_mem_head? hc))).1
  · intro c hc
    exact (Naming.plain_of_ascii (hascii c (List.mem_of_mem_tail hc))).2

/-- A name with a superscript is written bare, and is no name of the language. -/
theorem squared_written_bare : Naming.isIdentifier "x²" = true ∧
    Angular.propertyKey "x²" = "x²" ∧ Script.isIdentifierName "x²" = false := by
  decide

end SchemaForms
