/-
The tokens of a stream. What brackets and commas say in flow style, indentation says in
block style; as tokens both are explicit. A block collection begins with a token of its
own and ends with `blockEnd`, and a key has the token `key` in front of it, whether the
text marks it or only the colon behind it tells.

A scalar is a token with its text read: quotes, folds and escapes are gone. What is left
of its style is whether it was plain, since only a plain scalar may turn out to be
something other than a text.

Anchors and aliases have become numbers. An anchor has the number of different names
that anchors had before it, and an alias the number that its name had last. While no
name is used twice, this tells all anchors apart.
-/

set_option autoImplicit false

namespace SchemaForms.Yaml

inductive Token where
  /-- The version that a directive declares. -/
  | version (major minor : Nat)
  /-- What a directive declares a tag handle to stand for. -/
  | handle (handle meaning : List Char)
  | documentStart
  | documentEnd
  | blockSequence
  | blockMapping
  | blockEnd
  | openSequence
  | closeSequence
  | openMapping
  | closeMapping
  /-- The dash in front of an entry. -/
  | entry
  | comma
  | key
  | value
  | aliasOf (slot : Nat)
  | anchor (slot : Nat)
  | tag (handle suffix : List Char)
  | scalar (plain : Bool) (text : String)
deriving DecidableEq

end SchemaForms.Yaml
