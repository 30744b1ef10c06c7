/-
Pointers into a value. The empty pointer names the whole; any other begins with a slash,
and each slash is followed by a token that goes one step down: the key of a member, or
the decimal index of an item. In a token `~1` stands for a slash and `~0` for a tilde.
An index is written without sign and without leading zeros.
-/
import SchemaForms.Json.Basic
import SchemaForms.Json.Literal
import SchemaForms.Text.Split

set_option autoImplicit false

namespace SchemaForms.Json

/-! ## Tokens -/

/-- Resolves the two escapes of a token. -/
def unescapeToken : List Char → List Char
  | '~' :: '1' :: rest => '/' :: unescapeToken rest
  | '~' :: '0' :: rest => '~' :: unescapeToken rest
  | c :: rest => c :: unescapeToken rest
  | [] => []

/-- The tokens of a pointer, if it is well formed. -/
def pointerTokens? : List Char → Option (List (List Char))
  | [] => some []
  | '/' :: rest => some ((Text.split '/' rest).map unescapeToken)
  | _ => none

/-- The index that a token spells: digits only, no leading zero unless it is the only
digit. -/
def tokenIndex? (token : List Char) : Option Nat :=
  match token with
  | [] => none
  | '0' :: _ :: _ => none
  | digits => if digits.all Char.isDigit then some (natural digits) else none

/-! ## Steps -/

/-- One step down. -/
def child? (token : List Char) : Json → Option Json
  | object members => Keyed.get? members (String.ofList token)
  | array items =>
    match tokenIndex? token with
    | some index => items[index]?
    | none => none
  | _ => none

/-- Follows tokens down from a value. -/
def descend? : List (List Char) → Json → Option Json
  | [], value => some value
  | token :: rest, value =>
    match child? token value with
    | some below => descend? rest below
    | none => none

/-- The value a pointer names. -/
def pointer? (pointer : List Char) (root : Json) : Option Json :=
  match pointerTokens? pointer with
  | some tokens => descend? tokens root
  | none => none

end SchemaForms.Json
