/-
The text of a form reads back as what the form says. Reading is by the grammar of the
scripts and knows nothing of how the text was made: not of the indentation, not of which
names were quoted, and not that the copies of a template are the same text.

The proof goes down a field as rendering does. Each constructor call stands for one
expression whatever comes behind it, because it ends with its own parenthesis, so that
entries and copies can be joined with commas and line ends in between. That the text
reads back in one way only is a property of the grammar alone.
-/
import SchemaForms.Proofs.Render.Spelling

set_option autoImplicit false

namespace SchemaForms.Angular

open Script Naming

/-! ## Blanks -/

theorem isSpace_of_mem_indent {level : Nat} {c : Char} (hc : c ∈ (indent level).toList) :
    Json.isSpace c = true := by
  rw [indent, String.toList_ofList] at hc
  rw [List.eq_of_mem_replicate hc]
  decide

theorem next?_indent (level : Nat) (s : List Char) :
    next? ((indent level).toList ++ s) = next? s :=
  next?_blanks fun _ hc => isSpace_of_mem_indent hc

/-- The end of a line and the indentation of the next one. -/
theorem next?_line (level : Nat) (s : List Char) :
    next? ('\n' :: ((indent level).toList ++ s)) = next? s := by
  rw [next?_blank (by decide), next?_indent]

/-! ## Constructions -/

theorem reads_construct (name : String) {inner rest : List Char} {arguments : List Expr}
    (hname : isIdentifier name = true) (hinside : ReadsItems ')' inner arguments rest) :
    Reads ("new".toList ++ ' ' :: (name.toList ++ '(' :: inner)) (.construct name arguments)
      rest := by
  have hword : next? (' ' :: (name.toList ++ '(' :: inner)) = some (.word name, '(' :: inner) := by
    rw [next?_blank (by decide)]
    exact next?_word_cons hname (by decide) _
  exact .construct (next?_word_cons (by decide) (by decide) _) hword (next?_mark (by decide) _)
    hinside

/-- The default value of a control; null if there is none. -/
theorem spells_initial (initial : Option Json) :
    ∃ e, Spells ((initial.map literal).getD "null").toList e ∧
      json? e = some (initial.getD .null) := by
  cases initial with
  | none => exact ⟨.null, @spells_word "null" _ (by decide) rfl, rfl⟩
  | some value => exact spells_literal value

theorem stands_control (initial : Option Json) {list : List Validator}
    (h : ∀ v ∈ list, isReadable v = true) :
    ∃ e, Stands (control initial list).toList e ∧
      declaration? e = some (.control (initial.getD .null) (list.map condition)) := by
  obtain ⟨value, hvalue, hjson⟩ := spells_initial initial
  obtain ⟨conditions, hconditions, hlist⟩ := stands_validators h
  refine ⟨.construct "FormControl" [value, conditions], fun rest => ?_, ?_⟩
  · have htext : (control initial list).toList ++ rest = "new".toList ++ ' ' ::
        ("FormControl".toList ++ '(' :: (((initial.map literal).getD "null").toList ++
          ',' :: ' ' :: ((validators list).toList ++ ')' :: rest))) := by
      have hopening : "new FormControl(".toList =
          "new".toList ++ ' ' :: ("FormControl".toList ++ ['(']) := by decide
      have hcontrol : control initial list = "new FormControl(" ++
          (initial.map literal).getD "null" ++ ", " ++ validators list ++ ")" := rfl
      rw [hcontrol, String.toList_append, String.toList_append, String.toList_append,
        String.toList_append, hopening]
      simp only [List.append_assoc, List.cons_append]
      rfl
    rw [htext]
    refine reads_construct "FormControl" (by decide) (.cons (hvalue _ (closes_comma _))
      (next?_mark (by decide) _) (.last ?_ (next?_mark (by decide) rest)))
    exact (hconditions _).congr (next?_blank (by decide))
  · simp only [declaration?, hjson, hlist]

/-- The copies of an entry, each on a line of its own. -/
def copies (level count : Nat) (entry : String) : String :=
  if count = 0 then ""
  else
    "\n" ++ ",\n".intercalate (List.replicate count (indent (level + 1) ++ entry)) ++
      "\n" ++ indent level

theorem array_eq (level count : Nat) (entry : String) (list : List Validator) :
    array level count entry list = "new FormArray([" ++ copies level count entry ++ "]" ++
      (if list.isEmpty then "" else ", " ++ validators list) ++ ")" :=
  rfl

/-- The copies of an entry and the end of the array. -/
theorem reads_copies {level count : Nat} {entry : String} {e : Expr} (h : Stands entry.toList e)
    (rest : List Char) :
    ReadsItems ']' ((copies level count entry).toList ++ ']' :: rest) (List.replicate count e)
      rest := by
  unfold copies
  split
  · rename_i hcount
    rw [hcount]
    exact .nil (next?_mark (by decide) rest)
  · have htext : ("\n" ++ ",\n".intercalate (List.replicate count (indent (level + 1) ++ entry)) ++
        "\n" ++ indent level).toList ++ ']' :: rest =
          '\n' :: ([',', '\n'].intercalate (List.replicate count
            ((indent (level + 1)).toList ++ entry.toList)) ++
              '\n' :: ((indent level).toList ++ ']' :: rest)) := by
      rw [String.toList_append, String.toList_append, String.toList_append,
        String.toList_intercalate, List.map_replicate, String.toList_append]
      simp only [List.append_assoc]
      rfl
    have hclosing : next? ('\n' :: ((indent level).toList ++ ']' :: rest)) =
        some (.mark ']', rest) := by
      rw [next?_line]
      exact next?_mark (by decide) rest
    rw [htext]
    -- Each copy is read anew, its indentation first.
    have hcopies : ∀ n, List.Forall₂ (fun text e => ∀ rest, True → Reads (text ++ rest) e rest)
        (List.replicate n ((indent (level + 1)).toList ++ entry.toList)) (List.replicate n e) := by
      intro n
      induction n with
      | zero => exact .nil
      | succ n ih =>
        refine .cons (fun rest _ => ?_) ih
        rw [List.append_assoc]
        exact (h rest).congr (next?_indent _ _)
    exact (readsItems_intercalate (fun _ => True) (List.forall_mem_singleton.2 (by decide))
      (fun _ => trivial) trivial hclosing
      (hcopies count)).congr (next?_blank (by decide))

theorem declarationItems?_replicate {e : Expr} {declaration : Declaration}
    (h : declaration? e = some declaration) (count : Nat) :
    declarationItems? (List.replicate count e) = some (List.replicate count declaration) := by
  induction count with
  | zero => rfl
  | succ count ih => rw [List.replicate_succ, declarationItems?, h, ih, List.replicate_succ]

theorem stands_array {level count : Nat} {entry : String} {list : List Validator} {e : Expr}
    {declaration : Declaration} (hentry : Stands entry.toList e)
    (hdeclaration : declaration? e = some declaration) (h : ∀ v ∈ list, isReadable v = true) :
    ∃ e, Stands (array level count entry list).toList e ∧
      declaration? e =
        some (.array (List.replicate count declaration) (list.map condition)) := by
  have hitems := declarationItems?_replicate hdeclaration count
  have htext : ∀ rest, (array level count entry list).toList ++ rest =
      "new".toList ++ ' ' :: ("FormArray".toList ++ '(' ::
        ('[' :: ((copies level count entry).toList ++ ']' ::
          ((if list.isEmpty then "" else ", " ++ validators list).toList ++ ')' :: rest)))) := by
    intro rest
    have hopening : "new FormArray([".toList =
        "new".toList ++ ' ' :: ("FormArray".toList ++ ['(', '[']) := by decide
    rw [array_eq, String.toList_append, String.toList_append, String.toList_append,
      String.toList_append, hopening]
    simp only [List.append_assoc, List.cons_append]
    rfl
  -- The array of copies, up to its bracket.
  have harray : ∀ rest, Reads ('[' :: ((copies level count entry).toList ++ ']' :: rest))
      (.array (List.replicate count e)) rest :=
    fun rest => .array (next?_mark (by decide) _) (reads_copies hentry rest)
  -- Without validators there is no second argument.
  by_cases hempty : list.isEmpty = true
  · refine ⟨.construct "FormArray" [.array (List.replicate count e)], fun rest => ?_, ?_⟩
    · rw [htext, if_pos hempty]
      exact reads_construct "FormArray" (by decide) (.last (harray _) (next?_mark (by decide) rest))
    · rw [List.isEmpty_iff.1 hempty]
      simp only [declaration?, hitems, Option.map_some, List.map_nil]
  · obtain ⟨conditions, hconditions, hlist⟩ := stands_validators h
    refine ⟨.construct "FormArray" [.array (List.replicate count e), conditions],
      fun rest => ?_, ?_⟩
    · rw [htext, if_neg hempty, String.toList_append, List.append_assoc]
      refine reads_construct "FormArray" (by decide) (.cons (harray _) (next?_mark (by decide) _)
        (.last ?_ (next?_mark (by decide) rest)))
      exact (hconditions _).congr (next?_blank (by decide))
    · simp only [declaration?, hitems, hlist]

/-- The key of an entry is the name, bare or quoted. -/
theorem next?_propertyKey (name : String) (rest : List Char) :
    ∃ token, next? ((propertyKey name).toList ++ ':' :: rest) = some (token, ':' :: rest) ∧
      token.key? = some name := by
  rw [propertyKey]
  split
  · rename_i hname
    exact ⟨.word name, next?_word_cons hname (by decide) _, rfl⟩
  · exact ⟨.text name, next?_quote name _, rfl⟩

theorem readsEntry_line {level : Nat} {name text : String} {e : Expr} (h : Stands text.toList e)
    (rest : List Char) :
    ReadsEntry ((indent level ++ propertyKey name ++ ": " ++ text).toList ++ rest) (name, e)
      rest := by
  have htext : (indent level ++ propertyKey name ++ ": " ++ text).toList ++ rest =
      (indent level).toList ++
        ((propertyKey name).toList ++ ':' :: ' ' :: (text.toList ++ rest)) := by
    rw [String.toList_append, String.toList_append, String.toList_append]
    simp only [List.append_assoc]
    rfl
  obtain ⟨token, hnext, hkey⟩ := next?_propertyKey name (' ' :: (text.toList ++ rest))
  rw [htext]
  refine ⟨token, _, _, (next?_indent _ _).trans hnext, hkey, next?_mark (by decide) _, ?_⟩
  exact (h rest).congr (next?_blank (by decide))

/-- The entries of a group, each on a line of its own, and the closing brace. -/
theorem reads_lines {level : Nat} {lines : List String} {es : List (String × Expr)}
    (hlines : List.Forall₂ (fun line entry => ∀ rest, ReadsEntry (line.toList ++ rest) entry rest)
      lines es) (rest : List Char) :
    ReadsEntries ('\n' :: ([',', '\n'].intercalate (lines.map String.toList) ++
      '\n' :: ((indent level).toList ++ '\x7d' :: rest))) es rest := by
  have hclosing : next? ('\n' :: ((indent level).toList ++ '\x7d' :: rest)) =
      some (.mark '\x7d', rest) := by
    rw [next?_line]
    exact next?_mark (by decide) rest
  refine (readsEntries_intercalate (List.forall_mem_singleton.2 (by decide)) hclosing ?_).congr
    (next?_blank (by decide))
  exact List.forall₂_map_left_iff.2 hlines

theorem stands_group {level : Nat} {lines : List String} {es : List (String × Expr)}
    {entries : List (String × Declaration)}
    (hlines : List.Forall₂ (fun line entry => ∀ rest, ReadsEntry (line.toList ++ rest) entry rest)
      lines es)
    (hentries : declarationEntries? es = some entries) :
    ∃ e, Stands (group level lines).toList e ∧ declaration? e = some (.group entries) := by
  refine ⟨.construct "FormGroup" [.object es], fun rest => ?_, ?_⟩
  · -- A group without entries is written on one line and with no indentation.
    cases hlines with
    | nil =>
      have htext : (group level []).toList ++ rest = "new".toList ++ ' ' :: ("FormGroup".toList ++
          '(' :: '\x7b' :: '\x7d' :: ')' :: rest) := by
        have hopening : "new FormGroup(\x7b\x7d)".toList =
            "new".toList ++ ' ' :: ("FormGroup".toList ++ ['(', '\x7b', '\x7d', ')']) := by decide
        have hgroup : group level [] = "new FormGroup(\x7b\x7d)" := rfl
        rw [hgroup, hopening]
        simp only [List.append_assoc, List.cons_append]
        rfl
      rw [htext]
      exact reads_construct "FormGroup" (by decide) (.last
        (.object (next?_mark (by decide) _) (.nil (next?_mark (by decide) _)))
        (next?_mark (by decide) rest))
    | @cons line entry lines es head tail =>
      have htext : (group level (line :: lines)).toList ++ rest =
          "new".toList ++ ' ' :: ("FormGroup".toList ++ '(' :: '\x7b' ::
            '\n' :: ([',', '\n'].intercalate ((line :: lines).map String.toList) ++
              '\n' :: ((indent level).toList ++ '\x7d' :: ')' :: rest))) := by
        have hopening : "new FormGroup(\x7b\n".toList =
            "new".toList ++ ' ' :: ("FormGroup".toList ++ ['(', '\x7b', '\n']) := by decide
        have hgroup : group level (line :: lines) = "new FormGroup(\x7b\n" ++
            ",\n".intercalate (line :: lines) ++ "\n" ++ indent level ++ "\x7d)" := rfl
        rw [hgroup, String.toList_append, String.toList_append, String.toList_append,
          String.toList_append, String.toList_intercalate, hopening]
        simp only [List.append_assoc, List.cons_append]
        rfl
      rw [htext]
      exact reads_construct "FormGroup" (by decide) (.last
        (.object (next?_mark (by decide) _) (reads_lines (.cons head tail) _))
        (next?_mark (by decide) rest))
  · simp only [declaration?, hentries, Option.map_some]

/-! ## Fields -/

mutual

/-- **The text of a field is that field**, whatever comes behind it. -/
theorem stands_expression : ∀ (level : Nat) (field : Field),
    (∀ v ∈ everyValidator field, isReadable v = true) →
      ∃ e, Stands (expression level field).toList e ∧ declaration? e = some (declared field)
  | level, .control name initial list, h => by
    rw [expression, declared]
    exact stands_control initial h
  | level, .group name children, h => by
    obtain ⟨es, hlines, hentries⟩ := readsEntry_entries (level + 1) children h
    rw [expression, declared]
    exact stands_group hlines hentries
  | level, .repeated name count template list, h => by
    have htemplate : ∀ v ∈ everyValidator template, isReadable v = true :=
      fun v hv => h v (List.mem_append_right _ hv)
    obtain ⟨e, hstands, hdeclaration⟩ := stands_expression (level + 1) template htemplate
    rw [expression, declared]
    exact stands_array hstands hdeclaration fun v hv => h v (List.mem_append_left _ hv)

theorem readsEntry_entries : ∀ (level : Nat) (fields : List Field),
    (∀ v ∈ everyValidatorOf fields, isReadable v = true) →
      ∃ es, List.Forall₂ (fun line entry => ∀ rest, ReadsEntry (line.toList ++ rest) entry rest)
          (entries level fields) es ∧
        declarationEntries? es = some (declaredEntries fields)
  | level, [], h => ⟨[], .nil, rfl⟩
  | level, field :: rest, h => by
    obtain ⟨e, hstands, hdeclaration⟩ :=
      stands_expression level field fun v hv => h v (List.mem_append_left _ hv)
    obtain ⟨es, hlines, hentries⟩ :=
      readsEntry_entries level rest fun v hv => h v (List.mem_append_right _ hv)
    refine ⟨(field.name, e) :: es, ?_, ?_⟩
    · rw [entries]
      exact .cons (readsEntry_line hstands) hlines
    · rw [declarationEntries?, hdeclaration, hentries, declaredEntries]

end

/-! ## Forms -/

/-- What makes the text of a form readable: its constant has a name that can be one, no
validator in it is a custom one, and every pattern is a regular expression. -/
structure Readable (form : Form) : Prop where
  identifier : isIdentifier form.identifier = true
  noCustom : ∀ expression, Validator.custom expression ∉ everyValidatorOf form.fields
  patterns : ∀ expression, Validator.pattern expression ∈ everyValidatorOf form.fields →
    isRegexBody expression = true

theorem Readable.isReadable {form : Form} (h : Readable form) {v : Validator}
    (hv : v ∈ everyValidatorOf form.fields) : isReadable v = true := by
  cases v with
  | pattern expression => exact h.patterns expression hv
  | custom expression => exact (h.noCustom expression hv).elim
  | _ => rfl

theorem readsConstant_form {form : Form} {e : Expr}
    (hidentifier : isIdentifier form.identifier = true)
    (h : Stands (group 0 (entries 1 form.fields)).toList e) :
    ReadsConstant (Angular.form form).toList form.identifier e := by
  have htext : (Angular.form form).toList = "export".toList ++ ' ' :: ("const".toList ++ ' ' ::
      (form.identifier.toList ++ ' ' :: '=' :: ' ' ::
        ((group 0 (entries 1 form.fields)).toList ++ ';' :: ['\n']))) := by
    have hopening : "export const ".toList =
        "export".toList ++ ' ' :: ("const".toList ++ [' ']) := by decide
    have hform : Angular.form form = "export const " ++ form.identifier ++ " = " ++
        group 0 (entries 1 form.fields) ++ ";\n" := rfl
    rw [hform, String.toList_append, String.toList_append, String.toList_append,
      String.toList_append, hopening]
    simp only [List.append_assoc, List.cons_append]
    rfl
  have hconst : ∀ tail, next? (' ' :: ("const".toList ++ ' ' :: tail)) =
      some (.word "const", ' ' :: tail) := by
    intro tail
    rw [next?_blank (by decide)]
    exact next?_word_cons (by decide) (by decide) _
  have hname : ∀ tail, next? (' ' :: (form.identifier.toList ++ ' ' :: tail)) =
      some (.word form.identifier, ' ' :: tail) := by
    intro tail
    rw [next?_blank (by decide)]
    exact next?_word_cons hidentifier (by decide) _
  have hassign : ∀ tail, next? (' ' :: '=' :: tail) = some (.mark '=', tail) := by
    intro tail
    rw [next?_blank (by decide)]
    exact next?_mark (by decide) _
  have hend : next? [';', '\n'] = some (.mark ';', ['\n']) := next?_mark (by decide) _
  rw [htext]
  exact .intro (next?_word_cons (by decide) (by decide) _) (hconst _) (hname _) (hassign _)
    ((h _).congr (next?_blank (by decide))) hend rfl

/-- **The text of a form reads back as the form.** If the form is readable, its text is
one exported constant, to its end and in one way only; it has the name of the form and
declares the fields of the form; and it declares nothing else. -/
theorem form_readsBack {form : Form} (h : Readable form) (name : String)
    (declaration : Declaration) :
    ReadsBack (Angular.form form) name declaration ↔
      name = form.identifier ∧ declaration = .group (declaredEntries form.fields) := by
  obtain ⟨es, hlines, hentries⟩ := readsEntry_entries 1 form.fields fun _ hv => h.isReadable hv
  obtain ⟨e, hstands, hdeclares⟩ := @stands_group 0 _ _ _ hlines hentries
  have hback : ReadsBack (Angular.form form) form.identifier
      (.group (declaredEntries form.fields)) :=
    .of_readsConstant (readsConstant_form h.identifier hstands) hdeclares
  constructor
  · exact fun hother => hother.unique hback
  · rintro ⟨rfl, rfl⟩
    exact hback

/-- A form with a name in quotes, a text that needs escapes, and copies of a group. -/
def luggageForm : Form where
  definition := "Luggage"
  identifier := "luggageForm"
  fields :=
    [.control "owner's name" (some (.string "line\none \\ 'two'"))
        [.required, .pattern "[/]+\\/"],
      .repeated "tags" 2 (.group "" [.control "ink" none [.email], .group "rest" []]) [.minItems 2]]

theorem luggageForm_readable : Readable luggageForm where
  identifier := by decide
  noCustom := by
    intro expression h
    simp [luggageForm, everyValidatorOf, everyValidator] at h
  patterns := by
    intro expression h
    have hpattern : expression = "[/]+\\/" := by
      simpa [luggageForm, everyValidatorOf, everyValidator] using h
    rw [hpattern]
    decide

theorem form_readsBack_luggage :
    Readable luggageForm ∧ ReadsBack (Angular.form luggageForm) "luggageForm"
      (.group
        [("owner's name", .control (.string "line\none \\ 'two'")
            [.required, .pattern "[/]+\\/"]),
          ("tags", .array (List.replicate 2
            (.group [("ink", .control .null [.email]), ("rest", .group [])])) [.minLength 2])]) :=
  ⟨luggageForm_readable, (form_readsBack luggageForm_readable _ _).2 ⟨rfl, rfl⟩⟩

end SchemaForms.Angular
