/-
What a script declares. Reading a script gives an expression; here the expression is
understood: which constructor calls are controls, groups and arrays, which members and
calls of `Validators` are conditions, and which literals are values. An expression that
is nothing of the kind declares nothing.

Beside it stands what a form says (`Angular.declared`), as far as a script can say it. The
two bounds on the number of entries are there bounds on the length, as the library has
it; a default that is missing is null; and a repeated field is an array of as many
copies of its template as are asked for.
-/
import SchemaForms.Form.Basic
import SchemaForms.Proofs.Script.Grammar

set_option autoImplicit false

namespace SchemaForms

/-- A tree of controls. -/
inductive Declaration where
  | control (initial : Json) (conditions : List Validator)
  | group (entries : List (String × Declaration))
  | array (items : List Declaration) (conditions : List Validator)

namespace Script

/-! ## What expressions mean -/

mutual

/-- The value that an expression is. -/
def json? : Expr → Option Json
  | .null => some .null
  | .bool value => some (.bool value)
  | .numeral value => value.value?.map .number
  | .text value => some (.string value)
  | .array items => (jsonItems? items).map .array
  | .object entries => (jsonMembers? entries).map .object
  | _ => none

def jsonItems? : List Expr → Option (List Json)
  | [] => some []
  | item :: rest =>
    match json? item, jsonItems? rest with
    | some value, some values => some (value :: values)
    | _, _ => none

def jsonMembers? : List (String × Expr) → Option (List (String × Json))
  | [] => some []
  | (key, entry) :: rest =>
    match json? entry, jsonMembers? rest with
    | some value, some members => some ((key, value) :: members)
    | _, _ => none

end

/-- The condition that an expression is. -/
def condition? : Expr → Option Validator
  | .member "Validators" "required" => some .required
  | .member "Validators" "email" => some .email
  | .call "Validators" "pattern" [.regex body] => some (.pattern body)
  | .call "Validators" "minLength" [.numeral bound] => bound.natural?.map .minLength
  | .call "Validators" "maxLength" [.numeral bound] => bound.natural?.map .maxLength
  | .call "Validators" "min" [.numeral bound] => bound.value?.map .min
  | .call "Validators" "max" [.numeral bound] => bound.value?.map .max
  | _ => none

/-- The conditions in an array. -/
def conditions? : Expr → Option (List Validator)
  | .array items => items.mapM condition?
  | _ => none

mutual

/-- The tree that an expression constructs. -/
def declaration? : Expr → Option Declaration
  | .construct "FormControl" [initial, conditions] =>
    match json? initial, conditions? conditions with
    | some initial, some conditions => some (.control initial conditions)
    | _, _ => none
  | .construct "FormGroup" [.object entries] => (declarationEntries? entries).map .group
  | .construct "FormArray" [.array items] => (declarationItems? items).map (.array · [])
  | .construct "FormArray" [.array items, conditions] =>
    match declarationItems? items, conditions? conditions with
    | some items, some conditions => some (.array items conditions)
    | _, _ => none
  | _ => none

def declarationItems? : List Expr → Option (List Declaration)
  | [] => some []
  | item :: rest =>
    match declaration? item, declarationItems? rest with
    | some declaration, some declarations => some (declaration :: declarations)
    | _, _ => none

def declarationEntries? : List (String × Expr) → Option (List (String × Declaration))
  | [] => some []
  | (key, entry) :: rest =>
    match declaration? entry, declarationEntries? rest with
    | some declaration, some declarations => some ((key, declaration) :: declarations)
    | _, _ => none

end

/-- The text reads as an exported constant in exactly one way, and that constant has the
name and declares the tree. -/
def ReadsBack (text : String) (name : String) (declaration : Declaration) : Prop :=
  ∃ e, (∀ name' e', ReadsConstant text.toList name' e' ↔ name' = name ∧ e' = e) ∧
    declaration? e = some declaration

/-- One reading is enough, for the grammar is unambiguous. -/
theorem ReadsBack.of_readsConstant {text name : String} {e : Expr} {declaration : Declaration}
    (h : ReadsConstant text.toList name e) (hdeclares : declaration? e = some declaration) :
    ReadsBack text name declaration := by
  refine ⟨e, fun name' e' => ⟨fun hother => hother.unique h, ?_⟩, hdeclares⟩
  rintro ⟨rfl, rfl⟩
  exact h

/-- **A text declares at most one tree.** -/
theorem ReadsBack.unique {text name name' : String} {declaration declaration' : Declaration}
    (h : ReadsBack text name declaration) (h' : ReadsBack text name' declaration') :
    name = name' ∧ declaration = declaration' := by
  obtain ⟨e, honly, hdeclares⟩ := h
  obtain ⟨e', honly', hdeclares'⟩ := h'
  obtain ⟨rfl, rfl⟩ := (honly' name e).1 ((honly name e).2 ⟨rfl, rfl⟩)
  exact ⟨rfl, Option.some.inj (hdeclares.symm.trans hdeclares')⟩

end Script

namespace Angular

/-! ## What a form says -/

/-- A condition as a script has it. -/
def condition : Validator → Validator
  | .minItems bound => .minLength bound
  | .maxItems bound => .maxLength bound
  | other => other

mutual

/-- A field as a script has it. -/
def declared : Field → Declaration
  | .control _ initial list => .control (initial.getD .null) (list.map condition)
  | .group _ children => .group (declaredEntries children)
  | .repeated _ count template list =>
    .array (List.replicate count (declared template)) (list.map condition)

def declaredEntries : List Field → List (String × Declaration)
  | [] => []
  | field :: rest => (field.name, declared field) :: declaredEntries rest

end

mutual

/-- All validators of a field, those of fields inside included. -/
def everyValidator : Field → List Validator
  | .control _ _ list => list
  | .group _ children => everyValidatorOf children
  | .repeated _ _ template list => list ++ everyValidator template

def everyValidatorOf : List Field → List Validator
  | [] => []
  | field :: rest => everyValidator field ++ everyValidatorOf rest

end

/-- Can the validator be understood? A custom one can be any text, and a pattern has to be
a regular expression that can stand between slashes. -/
def isReadable : Validator → Bool
  | .custom _ => false
  | .pattern expression => Script.isRegexBody expression
  | _ => true

end Angular

end SchemaForms
