/-
What can be wrong with a value that should be a document, and where. A place is the way
to it from the root, by keys and indexes; a problem says what was found there and what
was wanted. Only the first problem in document order is reported.
-/
import SchemaForms.Json.Basic
import SchemaForms.Text.Quoted

set_option autoImplicit false

namespace SchemaForms

/-! ## Places -/

/-- One step from a value to a value inside it. -/
inductive PathStep where
  | key (key : String)
  | index (index : Nat)
deriving DecidableEq

namespace PathStep

/-- A step that follows another. -/
def text : PathStep → String
  | key k => "." ++ k
  | index i => "[" ++ toString i ++ "]"

/-- A step from the root. -/
def firstText : PathStep → String
  | key k => k
  | index i => "[" ++ toString i ++ "]"

/-- A way from the root; the root itself is a point. -/
def pathText : List PathStep → String
  | [] => "."
  | first :: rest => first.firstText ++ String.join (rest.map text)

end PathStep

/-! ## Problems -/

/-- What a place wants. -/
inductive Wanted where
  | document
  | components
  | info
  | schema
  | map
  | sequence
  | text
  | count
  | number
deriving DecidableEq

def Wanted.phrase : Wanted → String
  | document => "struct Document"
  | components => "struct Components"
  | info => "struct Info"
  | schema => "struct Schema"
  | map => "a map"
  | sequence => "a sequence"
  | text => "a string"
  | count => "u64"
  | number => "a JSON number"

/-- What a value is called when it is not what was wanted. -/
def Json.phrase : Json → String
  | null => "null"
  | bool b => "boolean `" ++ (if b then "true" else "false") ++ "`"
  | number (.integer n fits) => "integer `" ++ (Number.integer n fits).text ++ "`"
  | number (.double x) => "floating point `" ++ (Number.double x).text ++ "`"
  | string s => "string " ++ Text.quoted s
  | array _ => "sequence"
  | object _ => "map"

/-- What is wrong at a place. -/
inductive Problem where
  /-- The value is of another kind. -/
  | wrongKind (found : Json) (wanted : Wanted)
  /-- A count is negative. -/
  | negative (found : Json) (wanted : Wanted)
  /-- A `type` that is neither one name nor a list of names. -/
  | noType
  /-- An array in the place of a record lists more values than the record has fields. -/
  | tooMany (count : Nat)

def Problem.message : Problem → String
  | wrongKind found wanted => "invalid type: " ++ found.phrase ++ ", expected " ++ wanted.phrase
  | negative found wanted => "invalid value: " ++ found.phrase ++ ", expected " ++ wanted.phrase
  | noType => "data did not match any variant of untagged enum SchemaType"
  | tooMany count =>
    "invalid length " ++ toString count ++ ", expected fewer elements in array"

/-- The first problem of a value, and where it is. -/
structure DecodeError where
  path : List PathStep
  problem : Problem

namespace DecodeError

/-- A problem right here. -/
def here (problem : Problem) : DecodeError :=
  { path := [], problem }

/-- The message with its place. -/
def message (e : DecodeError) : String :=
  "at '" ++ PathStep.pathText e.path ++ "': " ++ e.problem.message

end DecodeError

/-- A decoding as seen from one step further out. -/
def within {α : Type} (step : PathStep) : Except DecodeError α → Except DecodeError α
  | .ok value => .ok value
  | .error e => .error { e with path := step :: e.path }

end SchemaForms
