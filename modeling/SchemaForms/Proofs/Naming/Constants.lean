/-
The constants of a generated file. A form is held by a constant whose name is the camel
case of the definition's name, and camel case forgets: separators go, and with them the
case of letters inside words. So definitions with different names can ask for the same
constant, as `Pet` and `pet` do (`petForm_twice`).

How much is forgotten is the content of this module. Cutting into words loses nothing but
separators (`flatten_words`), and after that only the words in lower case count
(`camelCase_eq`): names that have the same words in lower case meet. On the other side,
camel case keeps every ASCII letter and digit up to case (`toLower_camelCase`): ASCII
names that differ in one of these do not meet. The main statement (`constants_nodup_iff`)
says what this means for the single file of a document.
-/
import Mathlib.Data.List.Nodup
import SchemaForms.Document
import SchemaForms.Proofs.Naming.Words
import SchemaForms.Render.Angular
import SchemaForms.Rule.Standard

set_option autoImplicit false

namespace SchemaForms

namespace Naming

open Text

/-! ## Words in lower case -/

/-- The words of a name in lower case. -/
def lowerWords (name : String) : List (List Char) :=
  (words name.toList).map lowercase

/-- Words in lower case run together, all but the first capitalised. -/
def joinLower : List (List Char) → List Char
  | [] => []
  | first :: others => first ++ others.flatMap capitalize

/-- **Camel case sees a name only through its words in lower case.** -/
theorem camelCase_eq (name : String) :
    camelCase name = String.ofList (joinLower (lowerWords name)) := by
  rw [camelCase, lowerWords]
  cases words name.toList with
  | nil => rfl
  | cons first others => rw [joinCamel, List.map_cons, joinLower, List.flatMap_map]

/-! ## ASCII -/

/-- Every character is one of ASCII. -/
def IsAscii (s : List Char) : Prop :=
  ∀ c ∈ s, c.toNat < 128

/-- The letters and digits of a name, letters in lower case. -/
def lettersAndDigits (name : String) : List Char :=
  (name.toList.filter isWordChar).map Char.toLower

/-- Below all runs but the first and all longer forms, the first run is the whole mapping. -/
theorem caseForm_of_low {first : CaseRun} {runs : List CaseRun} {longer : List (Nat × List Nat)}
    {bound : Nat} (hruns : runs.all (fun run => bound ≤ run.low) = true)
    (hlonger : longer.all (fun entry => bound ≤ entry.1) = true) {c : Char} (hc : c.toNat < bound) :
    caseForm (first :: runs) longer c =
      match first.map? c.toNat with
      | some n => [Char.ofNat n]
      | none => [c] := by
  rw [List.all_eq_true] at hruns hlonger
  have hnoForm : longer.lookup c.toNat = none := by
    refine List.lookup_eq_none_iff.2 fun entry hentry => ?_
    have := of_decide_eq_true (hlonger entry hentry)
    exact bne_iff_ne.2 (by omega)
  have hnoRun : runs.findSome? (·.map? c.toNat) = none := by
    refine List.findSome?_eq_none_iff.2 fun run hrun => ?_
    have := of_decide_eq_true (hruns run hrun)
    exact if_neg (by omega)
  rw [caseForm, hnoForm]
  dsimp only
  rw [List.findSome?_cons, hnoRun]
  cases first.map? c.toNat <;> rfl

/-- In ASCII the case maps are those of single characters. -/
theorem case_of_ascii {c : Char} (h : c.toNat < 128) :
    lower c = [c.toLower] ∧ upper c = [c.toUpper] ∧ c ≠ 'Σ' := by
  have hlower : lower c =
      match (⟨0x41, 0x5A, 1, 0x61⟩ : CaseRun).map? c.toNat with
      | some n => [Char.ofNat n]
      | none => [c] :=
    caseForm_of_low (by decide +kernel) (by decide +kernel) h
  have hupper : upper c =
      match (⟨0x61, 0x7A, 1, 0x41⟩ : CaseRun).map? c.toNat with
      | some n => [Char.ofNat n]
      | none => [c] :=
    caseForm_of_low (by decide +kernel) (by decide +kernel) h
  -- What is left is a matter of 128 characters.
  have hall : ∀ n < 128, Char.ofNat n ≠ 'Σ' ∧
      (match (⟨0x41, 0x5A, 1, 0x61⟩ : CaseRun).map? (Char.ofNat n).toNat with
        | some m => [Char.ofNat m]
        | none => [Char.ofNat n]) = [(Char.ofNat n).toLower] ∧
      (match (⟨0x61, 0x7A, 1, 0x41⟩ : CaseRun).map? (Char.ofNat n).toNat with
        | some m => [Char.ofNat m]
        | none => [Char.ofNat n]) = [(Char.ofNat n).toUpper] := by
    decide +kernel
  obtain ⟨hsigma, hlowered, huppered⟩ := hall c.toNat h
  rw [Char.ofNat_toNat] at hsigma hlowered huppered
  exact ⟨hlower.trans hlowered, hupper.trans huppered, hsigma⟩

theorem lowercase_of_ascii {s : List Char} (h : IsAscii s) : lowercase s = s.map Char.toLower := by
  have hafter : ∀ before : List Char, lowercaseAfter before s = s.map Char.toLower := by
    induction s with
    | nil => exact fun _ => rfl
    | cons c rest ih =>
      intro before
      obtain ⟨hlower, -, hsigma⟩ := case_of_ascii (h c List.mem_cons_self)
      rw [lowercaseAfter, if_neg hsigma, hlower, ih fun d hd => h d (List.mem_cons_of_mem _ hd)]
      rfl
  exact hafter []

theorem toLower_idem {c : Char} (h : c.toNat < 128) : c.toLower.toLower = c.toLower := by
  have hall : ∀ n < 128, (Char.ofNat n).toLower.toLower = (Char.ofNat n).toLower := by decide
  rw [← Char.ofNat_toNat c]
  exact hall c.toNat h

theorem map_toLower_idem {s : List Char} (h : IsAscii s) :
    (s.map Char.toLower).map Char.toLower = s.map Char.toLower := by
  rw [List.map_map]
  exact List.map_congr_left fun c hc => toLower_idem (h c hc)

/-- A small letter and its capital have one lower case. -/
theorem toLower_toUpper {c : Char} (h : c.toNat < 128) :
    c.toLower.toNat < 128 ∧ c.toLower.toUpper.toLower = c.toLower := by
  have hall : ∀ n < 128, (Char.ofNat n).toLower.toNat < 128 ∧
      (Char.ofNat n).toLower.toUpper.toLower = (Char.ofNat n).toLower := by
    decide
  rw [← Char.ofNat_toNat c]
  exact hall c.toNat h

/-- Capitalising a word changes the case of a letter only. -/
theorem toLower_capitalize {word : List Char} (h : IsAscii word) :
    (capitalize (word.map Char.toLower)).map Char.toLower = word.map Char.toLower := by
  cases word with
  | nil => rfl
  | cons c rest =>
    obtain ⟨hascii, hlower⟩ := toLower_toUpper (h c List.mem_cons_self)
    obtain ⟨-, hupper, -⟩ := case_of_ascii hascii
    rw [List.map_cons, capitalize, List.map_append, hupper,
      map_toLower_idem fun d hd => h d (List.mem_cons_of_mem _ hd), List.map_singleton, hlower]
    rfl

/-- **Camel case keeps the letters and digits of an ASCII name up to case.** -/
theorem toLower_camelCase {name : String} (h : IsAscii name.toList) :
    (camelCase name).toList.map Char.toLower = lettersAndDigits name := by
  have hwords : ∀ word ∈ words name.toList, IsAscii word := by
    intro word hword c hc
    have hmem : c ∈ (words name.toList).flatten := List.mem_flatten.2 ⟨word, hword, hc⟩
    rw [flatten_words] at hmem
    exact h c (List.mem_filter.1 hmem).1
  rw [camelCase, String.toList_ofList, lettersAndDigits, ← flatten_words]
  cases hcase : words name.toList with
  | nil => rfl
  | cons first others =>
    rw [hcase] at hwords
    rw [joinCamel, List.map_append, lowercase_of_ascii (hwords first List.mem_cons_self),
      map_toLower_idem (hwords first List.mem_cons_self), List.flatten_cons, List.map_append]
    refine congrArg (first.map Char.toLower ++ ·) ?_
    rw [List.map_flatMap, List.map_flatten, List.flatMap_def]
    refine congrArg List.flatten (List.map_congr_left fun word hword => ?_)
    have hascii := hwords word (List.mem_cons_of_mem _ hword)
    rw [lowercase_of_ascii hascii, toLower_capitalize hascii]

end Naming

/-! ## Forms and their constants -/

theorem value_ofDefinitions (rules : Registry) (schemas : List (String × Schema)) :
    (Form.ofDefinitions rules schemas).value =
      schemas.map fun (name, schema) => (Form.ofDefinition rules name schema).value := by
  induction schemas with
  | nil => rfl
  | cons entry schemas ih =>
    obtain ⟨name, schema⟩ := entry
    rw [Form.ofDefinitions, List.map_cons, ← ih]
    rfl

/-- **There is one form for each definition, in order**, and it is held by the constant of
that name. -/
theorem forms_eq_ok {rules : Registry} {document : Document} {forms : Logged (List Form)}
    (h : document.forms rules = .ok forms) :
    document.definitionNames = .ok (forms.value.map Form.definition) ∧
      forms.value.map Form.identifier =
        (forms.value.map Form.definition).map Naming.formIdentifier := by
  rw [Document.forms] at h
  rw [Document.definitionNames]
  cases hschemas : document.schemas? with
  | none =>
    rw [hschemas] at h
    cases h
  | some schemas =>
    rw [hschemas] at h
    obtain rfl := Except.ok.inj h
    have hvalue : (do
        Logged.tell [.compilingDocument schemas.length]
        Form.ofDefinitions rules schemas : Logged (List Form)).value =
          schemas.map fun (name, schema) => (Form.ofDefinition rules name schema).value :=
      value_ofDefinitions rules schemas
    rw [hvalue, List.map_map, List.map_map, List.map_map]
    exact ⟨rfl, rfl⟩

/-- **The constants of a file are apart exactly when the names are in camel case.** There is
one form for each definition, in order, and the single file is its header and one exported
constant for each form. For its constants to be pairwise different no two names may have the
same words in lower case; for ASCII names it is enough that no two have the same letters and
digits up to case. -/
theorem constants_nodup_iff {rules : Registry} {document : Document} {forms : Logged (List Form)}
    (h : document.forms rules = .ok forms) :
    ∃ names, document.definitionNames = .ok names ∧
      forms.value.map Form.definition = names ∧
      forms.value.map Form.identifier = names.map Naming.formIdentifier ∧
      (∀ fileName, (Layout.single fileName).files Angular.renderer forms.value =
        [{ name := fileName
           content := Angular.header ++ String.join (forms.value.map fun form =>
            "\nexport const " ++ form.identifier ++ " = " ++
              Angular.group 0 (Angular.entries 1 form.fields) ++ ";\n") }]) ∧
      ((forms.value.map Form.identifier).Nodup ↔ (names.map Naming.camelCase).Nodup) ∧
      ((forms.value.map Form.identifier).Nodup → (names.map Naming.lowerWords).Nodup) ∧
      ((∀ name ∈ names, Naming.IsAscii name.toList) →
        (names.map Naming.lettersAndDigits).Nodup → (forms.value.map Form.identifier).Nodup) := by
  obtain ⟨hnames, hidentifiers⟩ := forms_eq_ok h
  generalize forms.value.map Form.definition = names at hnames hidentifiers ⊢
  have hiff : (forms.value.map Form.identifier).Nodup ↔ (names.map Naming.camelCase).Nodup := by
    have hsuffix : Function.Injective fun name : String => name ++ "Form" :=
      fun _ _ heq => (String.append_left_inj _).1 heq
    rw [hidentifiers, ← List.nodup_map_iff (l := names.map Naming.camelCase) hsuffix, List.map_map]
    rfl
  refine ⟨names, hnames, rfl, hidentifiers, fun fileName => rfl, hiff, fun hnodup => ?_,
    fun hascii hnodup => ?_⟩
  · -- The camel case is a function of the words in lower case.
    have hwords : names.map Naming.camelCase = (names.map Naming.lowerWords).map
        fun words => String.ofList (Naming.joinLower words) := by
      rw [List.map_map]
      exact List.map_congr_left fun name _ => Naming.camelCase_eq name
    exact List.Nodup.of_map _ (hwords ▸ hiff.1 hnodup)
  · -- And the letters and digits are one of the camel case.
    have hletters : names.map Naming.lettersAndDigits = (names.map Naming.camelCase).map
        fun name => name.toList.map Char.toLower := by
      rw [List.map_map]
      exact List.map_congr_left fun name hname =>
        (Naming.toLower_camelCase (hascii name hname)).symm
    exact hiff.2 (List.Nodup.of_map _ (hletters ▸ hnodup))

/-- Two names with a word in common, which camel case keeps apart. -/
def orderDocument : Document :=
  { definitions := some [("Pet", {}), ("PetOrder", {})] }

theorem constants_nodup_iff_order : ∃ forms, orderDocument.forms .standard = .ok forms ∧
    forms.value.map Form.identifier = ["petForm", "petOrderForm"] ∧
    (forms.value.map Form.identifier).Nodup := by
  obtain ⟨names, hnames, -, hidentifiers, -, hiff, -, -⟩ :=
    constants_nodup_iff (show orderDocument.forms .standard = .ok _ from rfl)
  obtain rfl := Except.ok.inj hnames
  exact ⟨_, rfl, hidentifiers, hiff.2 (by decide)⟩

/-- Two names that camel case does not keep apart. -/
def petDocument : Document :=
  { definitions := some [("Pet", {}), ("pet", {})] }

/-- Names that differ in case only ask for the same constant. -/
theorem petForm_twice : ∃ forms, petDocument.forms .standard = .ok forms ∧
    forms.value.map Form.identifier = ["petForm", "petForm"] ∧
    ¬(forms.value.map Form.identifier).Nodup :=
  ⟨_, rfl, by decide, by decide⟩

end SchemaForms
