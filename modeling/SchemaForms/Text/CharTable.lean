/-
Sets of characters. A property of the Unicode standard reaches this project as a
table of closed intervals of code points in increasing order, and a character has
the property when its code point lies in one of them.

The order of a table is what lets a search stop early, and it is also all that the
search needs for being right: `contains_iff` turns the search into "some interval of
the table holds the code point", which is the form every later argument about a
property starts from.
-/

set_option autoImplicit false

namespace SchemaForms.Text

/-- Closed intervals of code points, in increasing order. -/
abbrev CharTable := List (Nat × Nat)

namespace CharTable

/-- Searches the table; an interval that begins above the code point ends the search. -/
def contains : CharTable → Nat → Bool
  | [], _ => false
  | (low, high) :: rest, n => if n < low then false else n ≤ high || contains rest n

/-- Each interval begins above the end of the one before it. -/
def Increasing (table : CharTable) : Prop :=
  table.Pairwise fun r s => r.2 < s.1

/-- **The search is membership.** In an increasing table a code point is found exactly
when some interval holds it. -/
theorem contains_iff {table : CharTable} (h : Increasing table)
    (ordered : ∀ r ∈ table, r.1 ≤ r.2) (n : Nat) :
    table.contains n = true ↔ ∃ r ∈ table, r.1 ≤ n ∧ n ≤ r.2 := by
  induction table with
  | nil => simp [contains]
  | cons r rest ih =>
    obtain ⟨low, high⟩ := r
    obtain ⟨before, h⟩ := List.pairwise_cons.1 h
    have ih := ih h fun s hs => ordered s (List.mem_cons_of_mem _ hs)
    have here := ordered (low, high) List.mem_cons_self
    by_cases below : n < low
    · simp only [contains, if_pos below, Bool.false_eq_true, false_iff]
      rintro ⟨s, hs, hlow, hhigh⟩
      rcases List.mem_cons.1 hs with rfl | hs
      · omega
      · have := before s hs
        simp only at this here
        omega
    · simp only [contains, if_neg below, Bool.or_eq_true, decide_eq_true_eq, ih,
        List.mem_cons, exists_eq_or_imp]
      constructor
      · rintro (hhigh | found)
        · exact Or.inl ⟨by simpa using below, hhigh⟩
        · exact Or.inr found
      · rintro (⟨-, hhigh⟩ | found)
        · exact Or.inl hhigh
        · exact Or.inr found

end CharTable

end SchemaForms.Text
