/-
Quoted texts. Names and default values come from documents, and in a generated file they
stand in single quotation marks. What keeps them there is the quoting alone: four characters
could end a literal or break it, and each of them is escaped. The rest stands as it is,
which is in order for the separators of lines and paragraphs too.

So a quoted text is a literal of the language that stands for the text
(`textLiteral_quote`), and it is the only thing that can be read where the quoted text
begins, whatever comes behind. The main statement (`quote_denotes_exactly`) draws the
conclusions: no beginning of the literal is one already, and no two texts are quoted alike.
-/
import Mathlib.Data.List.Infix
import SchemaForms.Proofs.Script.TextLiteral

set_option autoImplicit false

namespace SchemaForms

open Script

theorem toList_quote (s : String) :
    (Angular.quote s).toList = '\'' :: (s.toList.flatMap Angular.escape ++ ['\'']) := by
  rw [Angular.quote, String.toList_ofList, List.cons_append]

/-- **One character inside the quotation marks contributes its own units**, escaped or not. -/
theorem textBody_escape (c : Char) {s rest : List Char} {ns : List Nat} (h : TextBody s ns rest) :
    TextBody (Angular.escape c ++ s) (unitsOf c.toNat ++ ns) rest := by
  -- The four escapes are single characters behind a backslash.
  have hsingle : ∀ letter : Char, singleEscape? letter = some c.toNat →
      unitsOf c.toNat = [c.toNat] →
      TextBody (['\\', letter] ++ s) (unitsOf c.toNat ++ ns) rest := by
    intro letter hletter hunits
    rw [hunits]
    exact .escaped (.single hletter) h
  unfold Angular.escape
  split
  · exact hsingle '\\' rfl rfl
  · exact hsingle '\'' rfl rfl
  · exact hsingle 'n' rfl rfl
  · exact hsingle 'r' rfl rfl
  · rename_i hslash hquote hline hreturn
    exact .plain hquote hslash hline hreturn h

theorem textBody_flatMap (s rest : List Char) :
    TextBody (s.flatMap Angular.escape ++ '\'' :: rest) (units s) rest := by
  induction s with
  | nil => exact .closing
  | cons c s ih =>
    rw [List.flatMap_cons, List.append_assoc, units_cons]
    exact textBody_escape c ih

/-- **A quoted text is a literal that stands for the text.** -/
theorem textLiteral_quote (s : String) (behind : List Char) :
    TextLiteral ((Angular.quote s).toList ++ behind) (units s.toList) behind := by
  rw [toList_quote, List.cons_append, List.append_assoc]
  exact .quoted (textBody_flatMap s.toList behind)

/-- A beginning of a quoted text is no literal unless it is all of it. -/
theorem eq_of_textLiteral_beginning {s : String} {beginning rest : List Char} {ns : List Nat}
    (hbeginning : beginning <+: (Angular.quote s).toList) (h : TextLiteral beginning ns rest) :
    beginning = (Angular.quote s).toList := by
  obtain ⟨more, hmore⟩ := hbeginning
  -- With the rest of the quoted text behind it, it would still end where it did.
  have hlonger := h.append more
  have hwhole := textLiteral_quote s []
  rw [List.append_nil, ← hmore] at hwhole
  have hend := (hwhole.unique hlonger).2
  rw [List.nil_eq, List.append_eq_nil_iff] at hend
  rw [← hmore, hend.2, List.append_nil]

/-- **A quoted text stands for itself and cannot get out of its literal.** Whatever comes
behind it, by the grammar of the language there is one literal at its beginning, which ends
where the quoted text ends and has the code units of the text. No shorter beginning of it is
a literal. The code units tell texts apart, and so does the quoted text. The
reader of tokens takes it for the text as well. In a generated file it is what default values
that are texts become, and names that are not written bare. -/
theorem quote_denotes_exactly (s : String) :
    (∀ behind, TextLiteral ((Angular.quote s).toList ++ behind) (units s.toList) behind ∧
      ∀ ns rest, TextLiteral ((Angular.quote s).toList ++ behind) ns rest →
        ns = units s.toList ∧ rest = behind) ∧
    (∀ beginning, beginning <+: (Angular.quote s).toList →
      beginning ≠ (Angular.quote s).toList → ∀ ns rest, ¬TextLiteral beginning ns rest) ∧
    (∀ other : String, units other.toList = units s.toList → other = s) ∧
    (∀ other, Angular.quote other = Angular.quote s → other = s) ∧
    (∀ behind, next? ((Angular.quote s).toList ++ behind) = some (.text s, behind)) ∧
    Angular.literal (.string s) = Angular.quote s ∧
    (Naming.isIdentifier s = false → Angular.propertyKey s = Angular.quote s) := by
  have hunits : ∀ other : String, units other.toList = units s.toList → other = s :=
    fun other heq => String.toList_inj.1 (units_injective heq)
  refine ⟨?_, ?_, hunits, ?_, next?_quote s, rfl, ?_⟩
  · intro behind
    refine ⟨textLiteral_quote s behind, ?_⟩
    intro ns rest h
    exact h.unique (textLiteral_quote s behind)
  · intro beginning hbeginning hne ns rest h
    exact hne (eq_of_textLiteral_beginning hbeginning h)
  · intro other heq
    -- The same literal cannot stand for two texts.
    have hother := textLiteral_quote other []
    rw [heq] at hother
    exact hunits other (hother.unique (textLiteral_quote s [])).1
  · intro hbare
    rw [Angular.propertyKey, hbare]
    rfl

example : Angular.quote "it's 1\\2\n" = "'it\\'s 1\\\\2\\n'" := by decide

end SchemaForms
