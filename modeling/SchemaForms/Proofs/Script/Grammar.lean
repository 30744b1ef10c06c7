/-
The grammar of generated scripts, as a relation between a text, what stands at its
beginning, and the rest. It knows literals, arrays and objects, members of a name, their
calls, and constructions with `new`; and one statement, an exported constant that the
text holds to its end. As in the language, a comma may trail in any list.

The grammar is unambiguous (`Reads.unique`, `ReadsConstant.unique`): a text begins with
at most one expression, for the first token decides which rule applies, and what follows
a rule's parts decides where they end. Only the end of a member needs a look at the token
behind it, for with an opening parenthesis there it is a call.
-/
import SchemaForms.Proofs.Script.Token

set_option autoImplicit false

namespace SchemaForms.Script

/-! ## Expressions -/

/-- An expression of a script. -/
inductive Expr where
  | null
  | bool (value : Bool)
  | numeral (value : Numeral)
  | text (value : String)
  | regex (body : String)
  | array (items : List Expr)
  | object (entries : List (String × Expr))
  /-- `owner.name` -/
  | member (owner name : String)
  /-- `owner.name(arguments)` -/
  | call (owner name : String) (arguments : List Expr)
  /-- `new name(arguments)` -/
  | construct (name : String) (arguments : List Expr)

/-- The words that are no names. -/
def isReserved (word : String) : Bool :=
  word == "null" || word == "true" || word == "false" || word == "new"

/-- The expression that a token is by itself. -/
def Token.literal? : Token → Option Expr
  | word name =>
    if name == "null" then some .null
    else if name == "true" then some (.bool true)
    else if name == "false" then some (.bool false)
    else none
  | text value => some (.text value)
  | numeral value => some (.numeral value)
  | regex body => some (.regex body)
  | mark _ => none

/-- The key that a token is. -/
def Token.key? : Token → Option String
  | word name => some name
  | text value => some value
  | _ => none

mutual

/-- The text begins with the expression, and this is the rest. -/
inductive Reads : List Char → Expr → List Char → Prop where
  | literal {s rest : List Char} {token : Token} {e : Expr}
      (first : next? s = some (token, rest)) (value : token.literal? = some e) : Reads s e rest
  | array {s inner rest : List Char} {items : List Expr}
      (first : next? s = some (.mark '[', inner)) (inside : ReadsItems ']' inner items rest) :
      Reads s (.array items) rest
  | object {s inner rest : List Char} {entries : List (String × Expr)}
      (first : next? s = some (.mark '\x7b', inner)) (inside : ReadsEntries inner entries rest) :
      Reads s (.object entries) rest
  | member {s after behind rest : List Char} {owner name : String}
      (first : next? s = some (.word owner, after)) (plain : isReserved owner = false)
      (dot : next? after = some (.mark '.', behind))
      (last : next? behind = some (.word name, rest))
      (uncalled : ∀ inner, next? rest ≠ some (.mark '(', inner)) :
      Reads s (.member owner name) rest
  | call {s after behind called inner rest : List Char} {owner name : String}
      {arguments : List Expr}
      (first : next? s = some (.word owner, after)) (plain : isReserved owner = false)
      (dot : next? after = some (.mark '.', behind))
      (last : next? behind = some (.word name, called))
      (opening : next? called = some (.mark '(', inner))
      (inside : ReadsItems ')' inner arguments rest) :
      Reads s (.call owner name arguments) rest
  | construct {s after called inner rest : List Char} {name : String} {arguments : List Expr}
      (first : next? s = some (.word "new", after))
      (last : next? after = some (.word name, called))
      (opening : next? called = some (.mark '(', inner))
      (inside : ReadsItems ')' inner arguments rest) :
      Reads s (.construct name arguments) rest

/-- The text begins with expressions between commas and then the closing mark. -/
inductive ReadsItems : Char → List Char → List Expr → List Char → Prop where
  | nil {close : Char} {s rest : List Char} (closing : next? s = some (.mark close, rest)) :
      ReadsItems close s [] rest
  | last {close : Char} {s after rest : List Char} {item : Expr} (head : Reads s item after)
      (closing : next? after = some (.mark close, rest)) : ReadsItems close s [item] rest
  | cons {close : Char} {s after behind rest : List Char} {item : Expr} {items : List Expr}
      (head : Reads s item after) (comma : next? after = some (.mark ',', behind))
      (tail : ReadsItems close behind items rest) : ReadsItems close s (item :: items) rest

/-- The text begins with entries between commas and then the closing brace. -/
inductive ReadsEntries : List Char → List (String × Expr) → List Char → Prop where
  | nil {s rest : List Char} (closing : next? s = some (.mark '\x7d', rest)) :
      ReadsEntries s [] rest
  | last {s after behind final rest : List Char} {token : Token} {key : String} {value : Expr}
      (first : next? s = some (token, after)) (isKey : token.key? = some key)
      (colon : next? after = some (.mark ':', behind)) (head : Reads behind value final)
      (closing : next? final = some (.mark '\x7d', rest)) : ReadsEntries s [(key, value)] rest
  | cons {s after behind final beyond rest : List Char} {token : Token} {key : String}
      {value : Expr} {entries : List (String × Expr)}
      (first : next? s = some (token, after)) (isKey : token.key? = some key)
      (colon : next? after = some (.mark ':', behind)) (head : Reads behind value final)
      (comma : next? final = some (.mark ',', beyond)) (tail : ReadsEntries beyond entries rest) :
      ReadsEntries s ((key, value) :: entries) rest

end

/-- The text is `export const name = value;` and nothing else. -/
inductive ReadsConstant : List Char → String → Expr → Prop where
  | intro {s exported declared named assigned valued final : List Char} {name : String}
      {value : Expr} (first : next? s = some (.word "export", exported))
      (declaration : next? exported = some (.word "const", declared))
      (identifier : next? declared = some (.word name, named))
      (assignment : next? named = some (.mark '=', assigned))
      (head : Reads assigned value valued)
      (closing : next? valued = some (.mark ';', final))
      (nothing : Json.skipSpace final = []) : ReadsConstant s name value

/-! ## The first token decides -/

/-- What the rules tell apart by their first token. -/
inductive Shape where
  | literal
  | array
  | object
  | member
  | construct

/-- What an expression that begins with the token is. -/
def Token.shape? : Token → Option Shape
  | word name =>
    if name == "new" then some .construct
    else if isReserved name then some .literal
    else some .member
  | mark c => if c == '[' then some .array else if c == '\x7b' then some .object else none
  | _ => some .literal

def Expr.shape : Expr → Shape
  | array _ => .array
  | object _ => .object
  | member _ _ => .member
  | call _ _ _ => .member
  | construct _ _ => .construct
  | _ => .literal

theorem shape_of_literal? {token : Token} {e : Expr} (h : token.literal? = some e) :
    token.shape? = some .literal ∧ e.shape = .literal := by
  cases token with
  | word name =>
    rw [Token.literal?] at h
    split at h
    · rename_i hname
      obtain rfl := eq_of_beq hname
      obtain rfl := Option.some.inj h
      exact ⟨rfl, rfl⟩
    split at h
    · rename_i hname
      obtain rfl := eq_of_beq hname
      obtain rfl := Option.some.inj h
      exact ⟨rfl, rfl⟩
    split at h
    · rename_i hname
      obtain rfl := eq_of_beq hname
      obtain rfl := Option.some.inj h
      exact ⟨rfl, rfl⟩
    · cases h
  | mark c => cases h
  | text value =>
    obtain rfl := Option.some.inj h
    exact ⟨rfl, rfl⟩
  | numeral value =>
    obtain rfl := Option.some.inj h
    exact ⟨rfl, rfl⟩
  | regex body =>
    obtain rfl := Option.some.inj h
    exact ⟨rfl, rfl⟩

theorem shape_of_plain {owner : String} (h : isReserved owner = false) :
    (Token.word owner).shape? = some .member := by
  have hnew : (owner == "new") = false := by
    rw [isReserved, Bool.or_eq_false_iff] at h
    exact h.2
  rw [Token.shape?, if_neg (by rw [hnew]; decide), if_neg (by rw [h]; decide)]

theorem Reads.shape {s rest : List Char} {e : Expr} (h : Reads s e rest) :
    ∃ token after, next? s = some (token, after) ∧ token.shape? = some e.shape := by
  cases h with
  | literal first value =>
    obtain ⟨htoken, he⟩ := shape_of_literal? value
    exact ⟨_, _, first, by rw [htoken, he]⟩
  | array first _ => exact ⟨_, _, first, rfl⟩
  | object first _ => exact ⟨_, _, first, rfl⟩
  | member first plain _ _ _ => exact ⟨_, _, first, shape_of_plain plain⟩
  | call first plain _ _ _ _ => exact ⟨_, _, first, shape_of_plain plain⟩
  | construct first _ _ _ => exact ⟨_, _, first, rfl⟩

/-! ## The grammar is unambiguous -/

theorem next?_unique {s rest rest' : List Char} {token token' : Token}
    (h : next? s = some (token, rest)) (h' : next? s = some (token', rest')) :
    token = token' ∧ rest = rest' :=
  Prod.mk.inj (Option.some.inj (h.symm.trans h'))

theorem Reads.shape_eq {s rest rest' : List Char} {e e' : Expr} (h : Reads s e rest)
    (h' : Reads s e' rest') : e.shape = e'.shape := by
  obtain ⟨token, after, first, htoken⟩ := h.shape
  obtain ⟨token', after', first', htoken'⟩ := h'.shape
  obtain ⟨rfl, -⟩ := next?_unique first first'
  exact Option.some.inj (htoken.symm.trans htoken')

/-- What begins with the token of a literal is that literal. -/
theorem Reads.not_literal {s rest rest' : List Char} {e e' : Expr} {token : Token}
    (h : Reads s e rest) (hshape : e.shape ≠ .literal)
    (first : next? s = some (token, rest')) (value : token.literal? = some e') : False := by
  have heq := h.shape_eq (Reads.literal first value)
  rw [(shape_of_literal? value).2] at heq
  exact hshape heq

/-- No expression begins with a mark that closes a list. -/
theorem Reads.not_closing {s rest rest' : List Char} {e : Expr} {close : Char}
    (h : Reads s e rest) (hclose : close ∈ [']', ')'])
    (closing : next? s = some (.mark close, rest')) : False := by
  obtain ⟨token, after, first, htoken⟩ := h.shape
  obtain ⟨rfl, -⟩ := next?_unique first closing
  have hnone : ∀ c ∈ [']', ')'], (Token.mark c).shape? = none := by simp [Token.shape?]
  rw [hnone close hclose] at htoken
  cases htoken

theorem closing_ne_comma {s rest rest' : List Char} {close : Char} (hclose : close ∈ [']', ')'])
    (closing : next? s = some (.mark close, rest)) (comma : next? s = some (.mark ',', rest')) :
    False := by
  obtain ⟨hmark, -⟩ := next?_unique closing comma
  obtain rfl := Token.mark.inj hmark
  exact absurd hclose (by decide)

section

variable {s after after' behind behind' rest rest' : List Char} {token token' : Token}

/-- No entry begins with a mark. -/
theorem mark_not_key {c : Char} {key : String} (mark : next? s = some (.mark c, rest))
    (first : next? s = some (token, after)) (isKey : token.key? = some key) : False := by
  obtain ⟨rfl, -⟩ := next?_unique mark first
  cases isKey

/-- A text begins with at most one key and colon. -/
theorem key_unique {key key' : String} (first : next? s = some (token, after))
    (isKey : token.key? = some key) (colon : next? after = some (.mark ':', behind))
    (first' : next? s = some (token', after')) (isKey' : token'.key? = some key')
    (colon' : next? after' = some (.mark ':', behind')) : key = key' ∧ behind = behind' := by
  obtain ⟨rfl, rfl⟩ := next?_unique first first'
  obtain ⟨-, rfl⟩ := next?_unique colon colon'
  exact ⟨Option.some.inj (isKey.symm.trans isKey'), rfl⟩

/-- A text begins with at most one name of a member. -/
theorem member_unique {owner owner' name name' : String}
    (first : next? s = some (.word owner, after)) (dot : next? after = some (.mark '.', behind))
    (last : next? behind = some (.word name, rest))
    (first' : next? s = some (.word owner', after'))
    (dot' : next? after' = some (.mark '.', behind'))
    (last' : next? behind' = some (.word name', rest')) :
    owner = owner' ∧ name = name' ∧ rest = rest' := by
  obtain ⟨howner, rfl⟩ := next?_unique first first'
  obtain ⟨-, rfl⟩ := next?_unique dot dot'
  obtain ⟨hname, rfl⟩ := next?_unique last last'
  exact ⟨Token.word.inj howner, Token.word.inj hname, rfl⟩

end

mutual

/-- **A text begins with at most one expression.** The induction is on the first
derivation. The second has the same shape, so that its last rule is the same one, except
that a member may be called or not. -/
theorem Reads.unique : ∀ {s rest rest' : List Char} {e e' : Expr},
    Reads s e rest → Reads s e' rest' → e = e' ∧ rest = rest'
  | _, _, _, _, _, .literal first value, h' => by
    have hshape := (Reads.literal first value).shape_eq h'
    rw [(shape_of_literal? value).2] at hshape
    cases h' with
    | literal first' value' =>
      obtain ⟨rfl, rfl⟩ := next?_unique first first'
      exact ⟨Option.some.inj (value.symm.trans value'), rfl⟩
    | _ => cases hshape
  | _, _, _, _, _, .array first inside, h' => by
    have h := Reads.array first inside
    have hshape := h.shape_eq h'
    cases h' with
    | array first' inside' =>
      obtain ⟨-, rfl⟩ := next?_unique first first'
      obtain ⟨rfl, rfl⟩ := inside.unique (by decide) inside'
      exact ⟨rfl, rfl⟩
    | literal first' value' => exact (h.not_literal nofun first' value').elim
    | _ => cases hshape
  | _, _, _, _, _, .object first inside, h' => by
    have h := Reads.object first inside
    have hshape := h.shape_eq h'
    cases h' with
    | object first' inside' =>
      obtain ⟨-, rfl⟩ := next?_unique first first'
      obtain ⟨rfl, rfl⟩ := inside.unique inside'
      exact ⟨rfl, rfl⟩
    | literal first' value' => exact (h.not_literal nofun first' value').elim
    | _ => cases hshape
  | _, _, _, _, _, .member first plain dot last uncalled, h' => by
    have h := Reads.member first plain dot last uncalled
    have hshape := h.shape_eq h'
    cases h' with
    | member first' _ dot' last' _ =>
      obtain ⟨rfl, rfl, rfl⟩ := member_unique first dot last first' dot' last'
      exact ⟨rfl, rfl⟩
    | call first' _ dot' last' opening' _ =>
      -- The shapes agree here; the token behind the name tells the two apart.
      obtain ⟨-, -, rfl⟩ := member_unique first dot last first' dot' last'
      exact (uncalled _ opening').elim
    | literal first' value' => exact (h.not_literal nofun first' value').elim
    | _ => cases hshape
  | _, _, _, _, _, .call first plain dot last opening inside, h' => by
    have h := Reads.call first plain dot last opening inside
    have hshape := h.shape_eq h'
    cases h' with
    | call first' _ dot' last' opening' inside' =>
      obtain ⟨rfl, rfl, rfl⟩ := member_unique first dot last first' dot' last'
      obtain ⟨-, rfl⟩ := next?_unique opening opening'
      obtain ⟨rfl, rfl⟩ := inside.unique (by decide) inside'
      exact ⟨rfl, rfl⟩
    | member first' _ dot' last' uncalled' =>
      obtain ⟨-, -, rfl⟩ := member_unique first dot last first' dot' last'
      exact (uncalled' _ opening).elim
    | literal first' value' => exact (h.not_literal nofun first' value').elim
    | _ => cases hshape
  | _, _, _, _, _, .construct first last opening inside, h' => by
    have h := Reads.construct first last opening inside
    have hshape := h.shape_eq h'
    cases h' with
    | construct first' last' opening' inside' =>
      obtain ⟨-, rfl⟩ := next?_unique first first'
      obtain ⟨hname, rfl⟩ := next?_unique last last'
      obtain ⟨-, rfl⟩ := next?_unique opening opening'
      obtain ⟨rfl, rfl⟩ := inside.unique (by decide) inside'
      rw [Token.word.inj hname]
      exact ⟨rfl, rfl⟩
    | literal first' value' => exact (h.not_literal nofun first' value').elim
    | _ => cases hshape

theorem ReadsItems.unique : ∀ {close : Char} {s rest rest' : List Char} {items items' : List Expr},
    ReadsItems close s items rest → close ∈ [']', ')'] → ReadsItems close s items' rest' →
      items = items' ∧ rest = rest'
  | _, _, _, _, _, _, .nil closing, hclose, h' => by
    cases h' with
    | nil closing' => exact ⟨rfl, (next?_unique closing closing').2⟩
    | last head' _ => exact (head'.not_closing hclose closing).elim
    | cons head' _ _ => exact (head'.not_closing hclose closing).elim
  | _, _, _, _, _, _, .last head closing, hclose, h' => by
    cases h' with
    | nil closing' => exact (head.not_closing hclose closing').elim
    | last head' closing' =>
      obtain ⟨rfl, rfl⟩ := head.unique head'
      exact ⟨rfl, (next?_unique closing closing').2⟩
    | cons head' comma' _ =>
      obtain ⟨-, rfl⟩ := head.unique head'
      exact (closing_ne_comma hclose closing comma').elim
  | _, _, _, _, _, _, .cons head comma tail, hclose, h' => by
    cases h' with
    | nil closing' => exact (head.not_closing hclose closing').elim
    | last head' closing' =>
      obtain ⟨-, rfl⟩ := head.unique head'
      exact (closing_ne_comma hclose closing' comma).elim
    | cons head' comma' tail' =>
      obtain ⟨rfl, rfl⟩ := head.unique head'
      obtain ⟨-, rfl⟩ := next?_unique comma comma'
      obtain ⟨rfl, rfl⟩ := tail.unique hclose tail'
      exact ⟨rfl, rfl⟩

theorem ReadsEntries.unique : ∀ {s rest rest' : List Char}
      {entries entries' : List (String × Expr)},
    ReadsEntries s entries rest → ReadsEntries s entries' rest' →
      entries = entries' ∧ rest = rest'
  | _, _, _, _, _, .nil closing, h' => by
    cases h' with
    | nil closing' => exact ⟨rfl, (next?_unique closing closing').2⟩
    | last first' isKey' _ _ _ => exact (mark_not_key closing first' isKey').elim
    | cons first' isKey' _ _ _ _ => exact (mark_not_key closing first' isKey').elim
  | _, _, _, _, _, .last first isKey colon head closing, h' => by
    cases h' with
    | nil closing' => exact (mark_not_key closing' first isKey).elim
    | last first' isKey' colon' head' closing' =>
      obtain ⟨rfl, rfl⟩ := key_unique first isKey colon first' isKey' colon'
      obtain ⟨rfl, rfl⟩ := head.unique head'
      exact ⟨rfl, (next?_unique closing closing').2⟩
    | cons first' isKey' colon' head' comma' _ =>
      -- A closing brace is no comma, and both stand where the value ends.
      obtain ⟨-, rfl⟩ := key_unique first isKey colon first' isKey' colon'
      obtain ⟨-, rfl⟩ := head.unique head'
      obtain ⟨hmark, -⟩ := next?_unique closing comma'
      cases hmark
  | _, _, _, _, _, .cons first isKey colon head comma tail, h' => by
    cases h' with
    | nil closing' => exact (mark_not_key closing' first isKey).elim
    | last first' isKey' colon' head' closing' =>
      obtain ⟨-, rfl⟩ := key_unique first isKey colon first' isKey' colon'
      obtain ⟨-, rfl⟩ := head.unique head'
      obtain ⟨hmark, -⟩ := next?_unique closing' comma
      cases hmark
    | cons first' isKey' colon' head' comma' tail' =>
      obtain ⟨rfl, rfl⟩ := key_unique first isKey colon first' isKey' colon'
      obtain ⟨rfl, rfl⟩ := head.unique head'
      obtain ⟨-, rfl⟩ := next?_unique comma comma'
      obtain ⟨rfl, rfl⟩ := tail.unique tail'
      exact ⟨rfl, rfl⟩

end

/-- **A text holds at most one constant**, with one name and one value. -/
theorem ReadsConstant.unique {s : List Char} {name name' : String} {value value' : Expr}
    (h : ReadsConstant s name value) (h' : ReadsConstant s name' value') :
    name = name' ∧ value = value' := by
  obtain ⟨first, declaration, identifier, assignment, head, -, -⟩ := h
  obtain ⟨first', declaration', identifier', assignment', head', -, -⟩ := h'
  obtain ⟨-, rfl⟩ := next?_unique first first'
  obtain ⟨-, rfl⟩ := next?_unique declaration declaration'
  obtain ⟨hname, rfl⟩ := next?_unique identifier identifier'
  obtain ⟨-, rfl⟩ := next?_unique assignment assignment'
  exact ⟨Token.word.inj hname, (head.unique head').1⟩

end SchemaForms.Script
