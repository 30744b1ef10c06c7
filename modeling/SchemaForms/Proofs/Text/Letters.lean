/-
What the tables of characters and of case forms have to do with each other: a character
that has a case is a letter (`isAlphabetic_of_isCased`), and so is one in lower case
(`isAlphabetic_of_isLowercase`); and a case form that is one character leads from a character
with a case to another (`caseForm_cases`).

The tables are long, so they are never searched for one character after the other. One
pass along two tables shows that the intervals of one lie in those of the other, and the
runs of a case map are looked at as intervals too.
-/
import Mathlib.Data.List.TakeWhile
import SchemaForms.Text.Alphabetic
import SchemaForms.Text.CaseMap
import SchemaForms.Text.Lowercase

set_option autoImplicit false

namespace SchemaForms.Text

/-! ## Tables beside tables -/

namespace CharTable

/-- Does each interval begin above the one before it, the first above `bound`? -/
def increases (bound : Nat) : CharTable → Bool
  | [] => true
  | (low, high) :: rest => Nat.blt bound low && Nat.ble low high && increases high rest

theorem increases_spec {table : CharTable} {bound : Nat} (h : increases bound table = true) :
    Increasing table ∧ ∀ r ∈ table, bound < r.1 ∧ r.1 ≤ r.2 := by
  induction table generalizing bound with
  | nil => exact ⟨.nil, by simp⟩
  | cons first rest ih =>
    obtain ⟨low, high⟩ := first
    simp only [increases, Bool.and_eq_true, Nat.blt_eq, Nat.ble_eq] at h
    obtain ⟨⟨hbound, hordered⟩, hrest⟩ := h
    obtain ⟨hincreasing, habove⟩ := ih hrest
    refine ⟨List.pairwise_cons.2 ⟨fun r hr => (habove r hr).1, hincreasing⟩, ?_⟩
    intro r hr
    rcases List.mem_cons.1 hr with rfl | hr
    · exact ⟨hbound, hordered⟩
    · have := habove r hr
      exact ⟨by omega, this.2⟩

theorem contains_iff_of_increases {table : CharTable} {bound : Nat}
    (h : increases bound table = true) (n : Nat) :
    table.contains n = true ↔ ∃ r ∈ table, r.1 ≤ n ∧ n ≤ r.2 :=
  contains_iff (increases_spec h).1 (fun r hr => ((increases_spec h).2 r hr).2) n

/-- Passes along a table and strikes off the intervals that lie in one of the table. -/
def strikes : CharTable → CharTable → Bool
  | [], inner => inner.isEmpty
  | (low, high) :: rest, inner =>
    strikes rest (inner.dropWhile fun r => Nat.ble low r.1 && Nat.ble r.2 high)

theorem within_of_strikes {table inner : CharTable} (h : strikes table inner = true) :
    ∀ r ∈ inner, ∃ s ∈ table, s.1 ≤ r.1 ∧ r.2 ≤ s.2 := by
  induction table generalizing inner with
  | nil =>
    rw [strikes, List.isEmpty_iff] at h
    subst h
    simp
  | cons first rest ih =>
    obtain ⟨low, high⟩ := first
    intro r hr
    rw [← List.takeWhile_append_dropWhile (p := fun r => Nat.ble low r.1 && Nat.ble r.2 high)
      (l := inner), List.mem_append] at hr
    rcases hr with hr | hr
    · have hinside := List.mem_takeWhile_imp hr
      simp only [Bool.and_eq_true, Nat.ble_eq] at hinside
      exact ⟨(low, high), List.mem_cons_self, hinside⟩
    · obtain ⟨s, hs, hinside⟩ := ih h r hr
      exact ⟨s, List.mem_cons_of_mem _ hs, hinside⟩

/-- **What is in the inner table is in the other**, if one pass strikes off all of it. -/
theorem contains_of_strikes {table inner : CharTable} {bound n : Nat}
    (htable : increases bound table = true) (hinner : increases bound inner = true)
    (h : strikes table inner = true) (hn : inner.contains n = true) : table.contains n = true := by
  rw [contains_iff_of_increases hinner] at hn
  rw [contains_iff_of_increases htable]
  obtain ⟨r, hr, hlow, hhigh⟩ := hn
  obtain ⟨s, hs, hinside⟩ := within_of_strikes h r hr
  exact ⟨s, hs, by omega, by omega⟩

/-- Are the code points from `low` to `high`, by steps, in the table? Mostly one interval
holds them all. -/
def includes (table : CharTable) (low high step : Nat) : Bool :=
  table.any (fun r => Nat.ble r.1 low && Nat.ble high r.2) ||
    (List.range ((high - low) / step + 1)).all fun i => table.contains (low + step * i)

theorem contains_of_includes {table : CharTable} {bound low high step n : Nat}
    (hincreases : increases bound table = true) (h : table.includes low high step = true)
    (hlow : low ≤ n) (hhigh : n ≤ high) (hstep : (n - low) % step = 0) :
    table.contains n = true := by
  unfold includes at h
  rw [Bool.or_eq_true, List.any_eq_true, List.all_eq_true] at h
  rcases h with ⟨r, hr, hcovers⟩ | hall
  · simp only [Bool.and_eq_true, Nat.ble_eq] at hcovers
    rw [contains_iff_of_increases hincreases]
    exact ⟨r, hr, by omega, by omega⟩
  · have hle : (n - low) / step ≤ (high - low) / step := Nat.div_le_div_right (by omega)
    have hfound := hall ((n - low) / step) (List.mem_range.2 (by omega))
    rwa [Nat.mul_div_cancel' (Nat.dvd_of_mod_eq_zero hstep), Nat.add_sub_cancel' hlow] at hfound

end CharTable

/-- The tables are in order, no code point with a case is one of a surrogate, which no character
has, and what has a case or is in lower case is among the letters. -/
theorem tables_spec :
    (CharTable.increases 0 alphabeticTable = true ∧ CharTable.increases 0 casedTable = true ∧
      CharTable.increases 0 lowercaseTable = true) ∧
    casedTable.all (fun r =>
      Nat.blt r.2 0xD800 || Nat.blt 0xDFFF r.1 && Nat.blt r.2 0x110000) = true ∧
    CharTable.strikes alphabeticTable casedTable = true ∧
      CharTable.strikes alphabeticTable lowercaseTable = true := by
  decide +kernel

theorem increases_alphabeticTable : CharTable.increases 0 alphabeticTable = true :=
  tables_spec.1.1

theorem increases_casedTable : CharTable.increases 0 casedTable = true :=
  tables_spec.1.2.1

/-- **A character that has a case is a letter.** -/
theorem isAlphabetic_of_isCased {c : Char} (h : isCased c = true) : isAlphabetic c = true :=
  CharTable.contains_of_strikes increases_alphabeticTable increases_casedTable
    tables_spec.2.2.1 h

/-- **A character in lower case is a letter.** -/
theorem isAlphabetic_of_isLowercase {c : Char} (h : isLowercase c = true) :
    isAlphabetic c = true :=
  CharTable.contains_of_strikes increases_alphabeticTable tables_spec.1.2.2 tables_spec.2.2.2 h

/-! ## Case forms, run by run -/

theorem toNat_ofNat_of_cased {n : Nat} (h : casedTable.contains n = true) :
    (Char.ofNat n).toNat = n := by
  rw [CharTable.contains_iff_of_increases increases_casedTable] at h
  obtain ⟨r, hr, hlow, hhigh⟩ := h
  have hrange := List.all_eq_true.1 tables_spec.2.1 r hr
  simp only [Bool.or_eq_true, Bool.and_eq_true, Nat.blt_eq] at hrange
  have hvalid : n.isValidChar := by
    rcases hrange with hrange | hrange
    · exact Or.inl (by omega)
    · exact Or.inr ⟨by omega, by omega⟩
  rw [Char.ofNat, dif_pos hvalid]
  rfl

namespace CaseRun

/-- Have the code points a case that the run covers, and those that it leads to? -/
def isCased (run : CaseRun) : Bool :=
  casedTable.includes run.low run.high run.step &&
    casedTable.includes run.target (run.target + (run.high - run.low)) run.step

variable {run : CaseRun} {n m : Nat}

theorem map?_eq_some (h : run.map? n = some m) :
    run.low ≤ n ∧ n ≤ run.high ∧ (n - run.low) % run.step = 0 ∧ m = run.target + (n - run.low) := by
  unfold map? at h
  split at h
  · rename_i hcovers
    obtain ⟨hlow, hhigh, hstep⟩ := hcovers
    exact ⟨hlow, hhigh, hstep, (Option.some.inj h).symm⟩
  · cases h

theorem contains_of_isCased (hrun : run.isCased = true) (h : run.map? n = some m) :
    casedTable.contains n = true ∧ casedTable.contains m = true := by
  obtain ⟨hlow, hhigh, hstep, rfl⟩ := map?_eq_some h
  rw [isCased, Bool.and_eq_true] at hrun
  refine ⟨CharTable.contains_of_includes increases_casedTable hrun.1 hlow hhigh hstep,
    CharTable.contains_of_includes increases_casedTable hrun.2 (by omega) (by omega) ?_⟩
  rwa [Nat.add_sub_cancel_left]

end CaseRun

theorem runs_isCased :
    lowerRuns.all CaseRun.isCased = true ∧ upperRuns.all CaseRun.isCased = true := by
  decide +kernel

/-- **The three sorts of case forms**: a longer one from the list, one character with a
case for another, or the character itself. -/
theorem caseForm_cases {runs : List CaseRun} (hruns : runs.all CaseRun.isCased = true)
    (longer : List (Nat × List Nat)) (c : Char) :
    (∃ form, (c.toNat, form) ∈ longer ∧ caseForm runs longer c = form.map Char.ofNat) ∨
    (∃ d, caseForm runs longer c = [d] ∧ isCased c = true ∧ isCased d = true ∧
      ∃ run ∈ runs, run.map? c.toNat = some d.toNat) ∨
    caseForm runs longer c = [c] := by
  unfold caseForm
  split
  · rename_i form hform
    obtain ⟨before, behind, rfl, -⟩ := List.lookup_eq_some_iff.1 hform
    exact Or.inl ⟨form, List.mem_append_right _ List.mem_cons_self, rfl⟩
  · split
    · rename_i n hn
      obtain ⟨run, hrun, hmap⟩ := List.exists_of_findSome?_eq_some hn
      obtain ⟨hc, hd⟩ := CaseRun.contains_of_isCased (List.all_eq_true.1 hruns run hrun) hmap
      have hvalid := toNat_ofNat_of_cased hd
      refine Or.inr (Or.inl ⟨Char.ofNat n, rfl, hc, ?_, run, hrun, ?_⟩)
      · rw [isCased, hvalid, hd]
      · rw [hvalid, hmap]
    · exact Or.inr (Or.inr rfl)

end SchemaForms.Text
