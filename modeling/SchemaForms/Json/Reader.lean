/-
Reading JSON text. The reader is strict: blanks are the four of the format, keys and
texts are in double quotes, no comma trails, an escaped surrogate comes in a pair, and
arrays and objects nest at most 127 deep.

Nesting is what the recursion of `value?` goes by: each array or object leaves one level
less for what it holds, and at level 0 none may begin. Items and members of one array or
object are read by a loop that is given the reader for the level below and a bound on
their number, for which the length of the whole text will do.
-/
import SchemaForms.Json.Basic
import SchemaForms.Json.Literal
import SchemaForms.Text.Digits

set_option autoImplicit false

namespace SchemaForms.Json

/-! ## Blanks -/

def isSpace (c : Char) : Bool :=
  c == ' ' || c == '\n' || c == '\t' || c == '\r'

def skipSpace (s : List Char) : List Char :=
  s.dropWhile isSpace

/-! ## Texts -/

/-- The character that an escape of one letter stands for. -/
def shortEscape? : Char → Option Char
  | '"' => some '"'
  | '\\' => some '\\'
  | '/' => some '/'
  | 'b' => some '\x08'
  | 'f' => some '\x0c'
  | 'n' => some '\n'
  | 'r' => some '\r'
  | 't' => some '\t'
  | _ => none

def isLeadingSurrogate (n : Nat) : Bool :=
  0xD800 ≤ n && n < 0xDC00

def isTrailingSurrogate (n : Nat) : Bool :=
  0xDC00 ≤ n && n < 0xE000

/-- The character that a pair of surrogates stands for. -/
def surrogatePair (leading trailing : Nat) : Char :=
  Char.ofNat ((leading - 0xD800) * 0x400 + (trailing - 0xDC00) + 0x10000)

/-- Reads up to the closing quotation mark; `taken` is the text so far, backwards. -/
def textAfter (taken : List Char) : List Char → Option (String × List Char)
  | '"' :: rest => some (String.ofList taken.reverse, rest)
  | '\\' :: 'u' :: a :: b :: c :: d :: rest =>
    match Text.natural? 16 [a, b, c, d] with
    | none => none
    | some unit =>
      if isLeadingSurrogate unit then
        match rest with
        | '\\' :: 'u' :: e :: f :: g :: h :: rest =>
          match Text.natural? 16 [e, f, g, h] with
          | none => none
          | some next =>
            if isTrailingSurrogate next then textAfter (surrogatePair unit next :: taken) rest
            else none
        | _ => none
      else if isTrailingSurrogate unit then none
      else textAfter (Char.ofNat unit :: taken) rest
  | '\\' :: c :: rest =>
    match shortEscape? c with
    | none => none
    | some escaped => textAfter (escaped :: taken) rest
  | c :: rest => if c.toNat < 0x20 || c == '\\' then none else textAfter (c :: taken) rest
  | [] => none

/-- Reads the rest of a text whose opening quotation mark has been read. -/
def text? (s : List Char) : Option (String × List Char) :=
  textAfter [] s

/-! ## Values -/

/-- What reads a value at the beginning of a text and returns the rest. -/
abbrev ValueReader := List Char → Option (Json × List Char)

/-- Reads items up to the closing bracket. -/
def items? (value : ValueReader) (taken : List Json) :
    Nat → List Char → Option (List Json × List Char)
  | 0, _ => none
  | bound + 1, s =>
    match value s with
    | none => none
    | some (item, s) =>
      match skipSpace s with
      | ',' :: s => items? value (item :: taken) bound s
      | ']' :: s => some ((item :: taken).reverse, s)
      | _ => none

/-- Reads a key with its quotation marks, and the colon after it. -/
def key? (s : List Char) : Option (String × List Char) :=
  match skipSpace s with
  | '"' :: s =>
    match text? s with
    | none => none
    | some (key, s) =>
      match skipSpace s with
      | ':' :: s => some (key, s)
      | _ => none
  | _ => none

/-- Reads members up to the closing brace. A key that comes again keeps its place and
takes the later value. -/
def members? (value : ValueReader) (taken : Keyed Json) :
    Nat → List Char → Option (Keyed Json × List Char)
  | 0, _ => none
  | bound + 1, s =>
    match key? s with
    | none => none
    | some (key, s) =>
      match value s with
      | none => none
      | some (item, s) =>
        match skipSpace s with
        | ',' :: s => members? value (taken.put key item) bound s
        | '}' :: s => some (taken.put key item, s)
        | _ => none

/-- Reads a value whose arrays and objects nest at most `depth` deep and hold at most
`bound` entries each. -/
def value? (bound : Nat) : Nat → ValueReader
  | depth, s =>
    match skipSpace s with
    | 'n' :: 'u' :: 'l' :: 'l' :: s => some (null, s)
    | 't' :: 'r' :: 'u' :: 'e' :: s => some (bool true, s)
    | 'f' :: 'a' :: 'l' :: 's' :: 'e' :: s => some (bool false, s)
    | '"' :: s => (text? s).map fun (text, s) => (string text, s)
    | '[' :: s =>
      match depth with
      | 0 => none
      | depth + 1 =>
        match skipSpace s with
        | ']' :: s => some (array [], s)
        | s => (items? (value? bound depth) [] bound s).map fun (items, s) => (array items, s)
    | '{' :: s =>
      match depth with
      | 0 => none
      | depth + 1 =>
        match skipSpace s with
        | '}' :: s => some (object [], s)
        | s =>
          (members? (value? bound depth) [] bound s).map fun (members, s) => (object members, s)
    | s => (number? s).map fun (n, s) => (number n, s)

/-- How deep arrays and objects may nest. -/
def maxDepth : Nat := 127

/-- Reads a text that holds one value, with blanks around it. -/
def read? (text : String) : Option Json :=
  let s := text.toList
  match value? s.length maxDepth s with
  | some (value, rest) => if (skipSpace rest).isEmpty then some value else none
  | none => none

end SchemaForms.Json
