/-
What the pieces of a generated script are when they are read: names, default values, and
validators with their arguments. The text of each, followed by whatever comes behind it
in a script, begins with one expression and leaves the rest alone; and that expression
tells what was written.

What may come behind differs. A number or a name ends only where no further digit or
letter stands, and so these texts ask for a mark that ends a list or an entry of one
(`Closes`). Texts with a bracket or a quotation mark at their end ask for nothing.
-/
import SchemaForms.Proofs.Render.Declaration

set_option autoImplicit false

namespace SchemaForms.Script

open Naming

/-! ## What comes behind -/

/-- A mark that ends an entry of a list, or the list. -/
def Closes (rest : List Char) : Prop :=
  ∃ c tail, rest = c :: tail ∧ c ∈ [',', ')', ']', '\x7d']

theorem closes_comma (rest : List Char) : Closes (',' :: rest) :=
  ⟨',', rest, rfl, by decide⟩

theorem Closes.head {rest : List Char} (h : Closes rest) {c : Char} (hc : rest.head? = some c) :
    isIdentifierPart c = false ∧ c.isDigit = false ∧ c ≠ '.' ∧ c ≠ 'e' ∧ c ≠ 'E' := by
  obtain ⟨c', tail, rfl, hmem⟩ := h
  obtain rfl := Option.some.inj hc
  simp only [List.mem_cons, List.not_mem_nil, or_false] at hmem
  rcases hmem with rfl | rfl | rfl | rfl <;> decide

theorem Closes.uncalled {rest : List Char} (h : Closes rest) (inner : List Char) :
    next? rest ≠ some (.mark '(', inner) := by
  obtain ⟨c, tail, rfl, hmem⟩ := h
  obtain ⟨hmark, hne⟩ : c ∈ marks ∧ c ≠ '(' := by
    simp only [List.mem_cons, List.not_mem_nil, or_false] at hmem
    rcases hmem with rfl | rfl | rfl | rfl <;> decide
  rw [next?_mark hmark]
  intro heq
  exact hne (Token.mark.inj (Prod.mk.inj (Option.some.inj heq)).1)

/-- The text is the expression, if a mark comes behind it. -/
def Spells (text : List Char) (e : Expr) : Prop :=
  ∀ rest, Closes rest → Reads (text ++ rest) e rest

/-- The text is the expression, whatever comes behind it. -/
def Stands (text : List Char) (e : Expr) : Prop :=
  ∀ rest, Reads (text ++ rest) e rest

theorem Stands.spells {text : List Char} {e : Expr} (h : Stands text e) : Spells text e :=
  fun rest _ => h rest

/-! ## Blanks and lists -/

/-- What stands at the beginning of a text depends on its next token only. -/
theorem Reads.congr {s s' rest : List Char} {e : Expr} (h : Reads s e rest)
    (hnext : next? s' = next? s) : Reads s' e rest := by
  cases h with
  | literal first value => exact .literal (hnext.trans first) value
  | array first inside => exact .array (hnext.trans first) inside
  | object first inside => exact .object (hnext.trans first) inside
  | member first plain dot last uncalled =>
    exact .member (hnext.trans first) plain dot last uncalled
  | call first plain dot last opening inside =>
    exact .call (hnext.trans first) plain dot last opening inside
  | construct first last opening inside => exact .construct (hnext.trans first) last opening inside

theorem ReadsItems.congr {close : Char} {s s' rest : List Char} {items : List Expr}
    (h : ReadsItems close s items rest) (hnext : next? s' = next? s) :
    ReadsItems close s' items rest := by
  cases h with
  | nil closing => exact .nil (hnext.trans closing)
  | last head closing => exact .last (head.congr hnext) closing
  | cons head comma tail => exact .cons (head.congr hnext) comma tail

theorem ReadsEntries.congr {s s' rest : List Char} {entries : List (String × Expr)}
    (h : ReadsEntries s entries rest) (hnext : next? s' = next? s) :
    ReadsEntries s' entries rest := by
  cases h with
  | nil closing => exact .nil (hnext.trans closing)
  | last first isKey colon head closing => exact .last (hnext.trans first) isKey colon head closing
  | cons first isKey colon head comma tail =>
    exact .cons (hnext.trans first) isKey colon head comma tail

/-- Texts joined with commas and blanks are a list of what they are one by one. `behind`
is what has to come behind each of them. -/
theorem readsItems_intercalate (behind : List Char → Prop) {close : Char}
    {blanks ending rest : List Char} (hblanks : ∀ c ∈ blanks, Json.isSpace c = true)
    (hcomma : ∀ rest, behind (',' :: rest)) (hending : behind ending)
    (hclosing : next? ending = some (.mark close, rest)) {texts : List (List Char)}
    {items : List Expr}
    (h : List.Forall₂ (fun text e => ∀ rest, behind rest → Reads (text ++ rest) e rest)
      texts items) :
    ReadsItems close ((',' :: blanks).intercalate texts ++ ending) items rest := by
  induction h with
  | nil => exact .nil hclosing
  | @cons text e texts items head tail ih =>
    cases tail with
    | nil =>
      rw [List.intercalate_singleton]
      exact .last (head ending hending) hclosing
    | @cons next e' texts items _ _ =>
      rw [List.intercalate_cons_cons, List.append_assoc, List.append_assoc]
      refine .cons (head _ (hcomma _)) (next?_mark (by decide) _) (ih.congr ?_)
      exact next?_blanks hblanks

/-- The text begins with an entry of an object. -/
def ReadsEntry (s : List Char) (entry : String × Expr) (rest : List Char) : Prop :=
  ∃ token after behind, next? s = some (token, after) ∧ token.key? = some entry.1 ∧
    next? after = some (.mark ':', behind) ∧ Reads behind entry.2 rest

theorem readsEntries_intercalate {blanks ending rest : List Char}
    (hblanks : ∀ c ∈ blanks, Json.isSpace c = true)
    (hclosing : next? ending = some (.mark '\x7d', rest)) {texts : List (List Char)}
    {entries : List (String × Expr)}
    (h : List.Forall₂ (fun text entry => ∀ rest, ReadsEntry (text ++ rest) entry rest)
      texts entries) :
    ReadsEntries ((',' :: blanks).intercalate texts ++ ending) entries rest := by
  induction h with
  | nil => exact .nil hclosing
  | @cons text entry texts entries head tail ih =>
    cases tail with
    | nil =>
      rw [List.intercalate_singleton]
      obtain ⟨token, after, behind, first, isKey, colon, value⟩ := head ending
      exact .last first isKey colon value hclosing
    | @cons next entry' texts entries _ _ =>
      rw [List.intercalate_cons_cons, List.append_assoc, List.append_assoc]
      obtain ⟨token, after, behind, first, isKey, colon, value⟩ := head _
      refine .cons first isKey colon value (next?_mark (by decide) _) (ih.congr ?_)
      exact next?_blanks hblanks

/-! ## Literals -/

theorem spells_number (n : Number) :
    ∃ numeral : Numeral, Spells n.text.toList (.numeral numeral) ∧ numeral.value? = some n := by
  obtain ⟨numeral, hwellFormed, hchars, hvalue⟩ := n.exists_numeral
  refine ⟨numeral, fun rest hrest => ?_, hvalue⟩
  rw [← hchars]
  exact .literal (next?_numeral hwellFormed fun c hc => (hrest.head hc).2) rfl

theorem spells_natural (n : Nat) :
    ∃ numeral : Numeral, Spells (toString n).toList (.numeral numeral) ∧
      numeral.natural? = some n := by
  refine ⟨.ofInt n, fun rest hrest => ?_, Numeral.ofInt_natural? n⟩
  have hchars : (toString n).toList = (Numeral.ofInt n).chars := (Numeral.ofInt_chars n).symm
  rw [hchars]
  exact .literal
    (next?_numeral (Numeral.ofInt_wellFormed n) fun c hc => (hrest.head hc).2) rfl

/-- A word that is no name is a literal. -/
theorem spells_word {word : String} {e : Expr} (hword : isIdentifier word = true)
    (hliteral : (Token.word word).literal? = some e) : Spells word.toList e :=
  fun _ hrest => .literal (next?_word hword fun _ hc => (hrest.head hc).1) hliteral

theorem stands_quote (s : String) : Stands (Angular.quote s).toList (.text s) :=
  fun rest => .literal (next?_quote s rest) rfl

theorem stands_jsonQuote (s : String) : Stands (Json.quote s).toList (.text s) :=
  fun rest => .literal (next?_jsonQuote s rest) rfl

theorem spells_regex {body : String} (hbody : isRegexBody body = true) :
    Spells ('/' :: (body.toList ++ ['/'])) (.regex body) := by
  intro rest hrest
  rw [List.cons_append, List.append_assoc, List.singleton_append]
  exact .literal (next?_regex hbody fun _ hc => (hrest.head hc).1) rfl

/-! ## Values -/

mutual

/-- **The text of a value is that value.** -/
theorem spells_render : ∀ value : Json, ∃ e, Spells value.render.toList e ∧ json? e = some value
  | .null => ⟨.null, @spells_word "null" _ (by decide) rfl, rfl⟩
  | .bool true => ⟨.bool true, @spells_word "true" _ (by decide) rfl, rfl⟩
  | .bool false => ⟨.bool false, @spells_word "false" _ (by decide) rfl, rfl⟩
  | .number n => by
    obtain ⟨numeral, hspells, hvalue⟩ := spells_number n
    exact ⟨.numeral numeral, hspells, by rw [json?, hvalue]; rfl⟩
  | .string s => ⟨.text s, (stands_jsonQuote s).spells, rfl⟩
  | .array items => by
    obtain ⟨es, hreads, hvalues⟩ := reads_renderItems items
    refine ⟨.array es, fun rest _ => ?_, by rw [json?, hvalues]; rfl⟩
    have htext : (Json.array items).render.toList ++ rest =
        '[' :: ((Json.renderItems items).toList ++ ']' :: rest) := by
      rw [Json.render]
      simp only [String.toList_append, List.append_assoc]
      rfl
    rw [htext]
    exact .array (next?_mark (by decide) _) (hreads rest)
  | .object members => by
    obtain ⟨entries, hreads, hvalues⟩ := reads_renderMembers members
    refine ⟨.object entries, fun rest _ => ?_, by rw [json?, hvalues]; rfl⟩
    have htext : (Json.object members).render.toList ++ rest =
        '\x7b' :: ((Json.renderMembers members).toList ++ '\x7d' :: rest) := by
      rw [Json.render]
      simp only [String.toList_append, List.append_assoc]
      rfl
    rw [htext]
    exact .object (next?_mark (by decide) _) (hreads rest)

theorem reads_renderItems : ∀ items : List Json, ∃ es, (∀ rest,
    ReadsItems ']' ((Json.renderItems items).toList ++ ']' :: rest) es rest) ∧
      jsonItems? es = some items
  | [] => ⟨[], fun rest => .nil (next?_mark (by decide) rest), rfl⟩
  | [item] => by
    obtain ⟨e, hspells, hvalue⟩ := spells_render item
    refine ⟨[e], fun rest => ?_, by rw [jsonItems?, hvalue]; rfl⟩
    rw [Json.renderItems]
    exact .last (hspells _ ⟨']', rest, rfl, by decide⟩) (next?_mark (by decide) rest)
  | item :: next :: others => by
    obtain ⟨e, hspells, hvalue⟩ := spells_render item
    obtain ⟨es, hreads, hvalues⟩ := reads_renderItems (next :: others)
    refine ⟨e :: es, fun rest => ?_, by rw [jsonItems?, hvalue, hvalues]⟩
    have htext : (Json.renderItems (item :: next :: others)).toList ++ ']' :: rest =
        item.render.toList ++
          ',' :: ((Json.renderItems (next :: others)).toList ++ ']' :: rest) := by
      rw [Json.renderItems]
      · simp only [String.toList_append, List.append_assoc]
        rfl
      · simp
    rw [htext]
    exact .cons (hspells _ (closes_comma _)) (next?_mark (by decide) _) (hreads rest)

theorem reads_renderMembers : ∀ members : List (String × Json), ∃ entries, (∀ rest,
    ReadsEntries ((Json.renderMembers members).toList ++ '\x7d' :: rest) entries rest) ∧
      jsonMembers? entries = some members
  | [] => ⟨[], fun rest => .nil (next?_mark (by decide) rest), rfl⟩
  | [(key, value)] => by
    obtain ⟨e, hspells, hvalue⟩ := spells_render value
    refine ⟨[(key, e)], fun rest => ?_, by rw [jsonMembers?, hvalue]; rfl⟩
    have htext : (Json.renderMembers [(key, value)]).toList ++ '\x7d' :: rest =
        (Json.quote key).toList ++ ':' :: (value.render.toList ++ '\x7d' :: rest) := by
      rw [Json.renderMembers]
      simp only [String.toList_append, List.append_assoc]
      rfl
    rw [htext]
    exact .last (next?_jsonQuote key _) rfl (next?_mark (by decide) _)
      (hspells _ ⟨'\x7d', rest, rfl, by decide⟩) (next?_mark (by decide) rest)
  | (key, value) :: next :: others => by
    obtain ⟨e, hspells, hvalue⟩ := spells_render value
    obtain ⟨entries, hreads, hvalues⟩ := reads_renderMembers (next :: others)
    refine ⟨(key, e) :: entries, fun rest => ?_, by rw [jsonMembers?, hvalue, hvalues]⟩
    have htext : (Json.renderMembers ((key, value) :: next :: others)).toList ++ '\x7d' :: rest =
        (Json.quote key).toList ++ ':' :: (value.render.toList ++
          ',' :: ((Json.renderMembers (next :: others)).toList ++ '\x7d' :: rest)) := by
      rw [Json.renderMembers]
      · simp only [String.toList_append, List.append_assoc]
        rfl
      · simp
    rw [htext]
    exact .cons (next?_jsonQuote key _) rfl (next?_mark (by decide) _)
      (hspells _ (closes_comma _)) (next?_mark (by decide) _) (hreads rest)

end

/-- The text of a default value is that value. -/
theorem spells_literal (value : Json) :
    ∃ e, Spells (Angular.literal value).toList e ∧ json? e = some value := by
  cases value with
  | string s => exact ⟨.text s, (stands_quote s).spells, rfl⟩
  | _ => exact spells_render _

/-! ## Conditions -/

theorem spells_member (owner name : String) (howner : isIdentifier owner = true)
    (hplain : isReserved owner = false) (hname : isIdentifier name = true) :
    Spells (owner.toList ++ '.' :: name.toList) (.member owner name) := by
  intro rest hrest
  rw [List.append_assoc, List.cons_append]
  exact .member (next?_word_cons howner (by decide) _) hplain (next?_mark (by decide) _)
    (next?_word hname fun _ hc => (hrest.head hc).1) hrest.uncalled

theorem stands_call (owner name : String) {text : List Char} {argument : Expr}
    (howner : isIdentifier owner = true) (hplain : isReserved owner = false)
    (hname : isIdentifier name = true) (hargument : Spells text argument) :
    Stands (owner.toList ++ '.' :: (name.toList ++ '(' :: (text ++ [')'])))
      (.call owner name [argument]) := by
  intro rest
  simp only [List.append_assoc, List.cons_append, List.nil_append]
  have harguments : ReadsItems ')' (text ++ ')' :: rest) [argument] rest :=
    .last (hargument _ ⟨')', rest, rfl, by decide⟩) (next?_mark (by decide) rest)
  exact .call (next?_word_cons howner (by decide) _) hplain (next?_mark (by decide) _)
    (next?_word_cons hname (by decide) _) (next?_mark (by decide) _) harguments

theorem toList_condition (name text : String) :
    ("Validators." ++ name ++ "(" ++ text ++ ")").toList =
      "Validators".toList ++ '.' :: (name.toList ++ '(' :: (text.toList ++ [')'])) := by
  simp only [String.toList_append, List.append_assoc]
  rfl

/-- A validator with an argument, given how its text is made up. -/
theorem spells_condition (name : String) {shown : String} {text : List Char} {argument : Expr}
    (hname : isIdentifier name = true) (hargument : Spells text argument)
    (hshown : shown.toList =
      "Validators".toList ++ '.' :: (name.toList ++ '(' :: (text ++ [')']))) :
    Spells shown.toList (.call "Validators" name [argument]) := by
  rw [hshown]
  exact (stands_call "Validators" name (by decide) (by decide) hname hargument).spells

/-- **The text of a validator is that condition.** -/
theorem spells_validator {v : Validator} (h : Angular.isReadable v = true) :
    ∃ e, Spells (Angular.validator v).toList e ∧ condition? e = some (Angular.condition v) := by
  cases v with
  | required =>
    exact ⟨_, spells_member "Validators" "required" (by decide) (by decide) (by decide), rfl⟩
  | email =>
    exact ⟨_, spells_member "Validators" "email" (by decide) (by decide) (by decide), rfl⟩
  | pattern expression =>
    have htext : (Angular.validator (.pattern expression)).toList = "Validators".toList ++
        '.' :: ("pattern".toList ++ '(' :: ('/' :: (expression.toList ++ ['/']) ++ [')'])) := by
      -- The slashes belong to the argument, though the text has them beside the brackets.
      have hopening : "Validators.pattern(/".toList =
          "Validators".toList ++ '.' :: ("pattern".toList ++ ['(', '/']) := by decide
      have hclosing : "/)".toList = ['/', ')'] := by decide
      have hvalidator : Angular.validator (.pattern expression) =
          "Validators.pattern(/" ++ expression ++ "/)" := rfl
      rw [hvalidator, String.toList_append, String.toList_append, hopening, hclosing]
      generalize "Validators".toList = owner
      generalize "pattern".toList = name
      simp only [List.append_assoc, List.cons_append, List.nil_append]
    exact ⟨_, spells_condition "pattern" (by decide) (spells_regex h) htext, rfl⟩
  | minLength bound =>
    obtain ⟨numeral, hspells, hvalue⟩ := spells_natural bound
    exact ⟨_, spells_condition "minLength" (by decide) hspells (toList_condition "minLength" _),
      by rw [condition?, hvalue]; rfl⟩
  | maxLength bound =>
    obtain ⟨numeral, hspells, hvalue⟩ := spells_natural bound
    exact ⟨_, spells_condition "maxLength" (by decide) hspells (toList_condition "maxLength" _),
      by rw [condition?, hvalue]; rfl⟩
  | minItems bound =>
    obtain ⟨numeral, hspells, hvalue⟩ := spells_natural bound
    exact ⟨_, spells_condition "minLength" (by decide) hspells (toList_condition "minLength" _),
      by rw [condition?, hvalue]; rfl⟩
  | maxItems bound =>
    obtain ⟨numeral, hspells, hvalue⟩ := spells_natural bound
    exact ⟨_, spells_condition "maxLength" (by decide) hspells (toList_condition "maxLength" _),
      by rw [condition?, hvalue]; rfl⟩
  | min bound =>
    obtain ⟨numeral, hspells, hvalue⟩ := spells_number bound
    exact ⟨_, spells_condition "min" (by decide) hspells (toList_condition "min" _),
      by rw [condition?, hvalue]; rfl⟩
  | max bound =>
    obtain ⟨numeral, hspells, hvalue⟩ := spells_number bound
    exact ⟨_, spells_condition "max" (by decide) hspells (toList_condition "max" _),
      by rw [condition?, hvalue]; rfl⟩
  | custom expression => cases h

/-- **The text of a list of validators is an array of these conditions.** -/
theorem stands_validators {list : List Validator} (h : ∀ v ∈ list, Angular.isReadable v = true) :
    ∃ e, Stands (Angular.validators list).toList e ∧
      conditions? e = some (list.map Angular.condition) := by
  -- One expression for each validator, and they are conditions together.
  obtain ⟨es, hspells, hconditions⟩ : ∃ es,
      List.Forall₂ (fun text e => ∀ rest, Closes rest → Reads (text ++ rest) e rest)
        (list.map fun v => (Angular.validator v).toList) es ∧
      es.mapM condition? = some (list.map Angular.condition) := by
    induction list with
    | nil => exact ⟨[], .nil, rfl⟩
    | cons v list ih =>
      obtain ⟨e, hspells, hcondition⟩ := spells_validator (h v List.mem_cons_self)
      obtain ⟨es, hall, hconditions⟩ := ih fun w hw => h w (List.mem_cons_of_mem _ hw)
      refine ⟨e :: es, .cons hspells hall, ?_⟩
      rw [List.mapM_cons, hcondition, hconditions]
      rfl
  refine ⟨.array es, fun rest => ?_, hconditions⟩
  have htext : (Angular.validators list).toList ++ rest =
      '[' :: ([',', ' '].intercalate (list.map fun v => (Angular.validator v).toList) ++
        ']' :: rest) := by
    rw [Angular.validators, String.toList_append, String.toList_append, String.toList_intercalate,
      List.map_map]
    simp only [List.append_assoc]
    rfl
  rw [htext]
  exact .array (next?_mark (by decide) _) (readsItems_intercalate Closes
    (List.forall_mem_singleton.2 (by decide)) closes_comma
    ⟨']', rest, rfl, by decide⟩ (next?_mark (by decide) rest) hspells)

end SchemaForms.Script
