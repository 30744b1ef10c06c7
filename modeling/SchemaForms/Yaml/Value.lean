/-
From the tree of nodes to the value of a document. An alias stands for the last node
with its anchor, wherever that is, so the anchored nodes of the whole tree are listed
first. Following aliases may lead in circles or take very long; both end in an error.
Circles go through collections, which nest at most `maxDepth` deep, what aliases stand
for included. And aliases are followed at most a hundred times as often as the tree has
parts.

The key of an entry is the text of a scalar, whatever the scalar would stand for.
-/
import SchemaForms.Yaml.Node
import SchemaForms.Yaml.Resolution

set_option autoImplicit false

namespace SchemaForms.Yaml

namespace Node

/-! ## Anchors -/

/-- A node by its anchor, if it has one. -/
def mark (properties : Properties) (node : Node) : List (Nat × Node) :=
  match properties.anchor with
  | some slot => [(slot, node)]
  | none => []

mutual

/-- The anchored nodes in the order in which they begin. -/
def anchored : Node → List (Nat × Node)
  | aliasOf _ => []
  | scalar properties plain text => mark properties (scalar properties plain text)
  | sequence properties items =>
    mark properties (sequence properties items) ++ anchoredItems items
  | mapping properties entries =>
    mark properties (mapping properties entries) ++ anchoredEntries entries

def anchoredItems : List Node → List (Nat × Node)
  | [] => []
  | item :: rest => anchored item ++ anchoredItems rest

def anchoredEntries : List (Node × Node) → List (Nat × Node)
  | [] => []
  | (key, value) :: rest => anchored key ++ anchored value ++ anchoredEntries rest

end

mutual

/-- The number of parts of a tree: the beginning and the end of a collection are two. -/
def size : Node → Nat
  | aliasOf _ => 1
  | scalar _ _ _ => 1
  | sequence _ items => sizeItems items + 2
  | mapping _ entries => sizeEntries entries + 2

def sizeItems : List Node → Nat
  | [] => 0
  | item :: rest => size item + sizeItems rest

def sizeEntries : List (Node × Node) → Nat
  | [] => 0
  | (key, value) :: rest => size key + size value + sizeEntries rest

end

/-! ## Values -/

/-- What may fail, while it is counted how often aliases may still be followed. -/
abbrev Following := StateT Nat Option

/-- The node that a node stands for. -/
def follow (anchors : List (Nat × Node)) : Node → Following Node
  | aliasOf slot => do
    match ← get with
    | 0 => failure
    | left + 1 =>
      set left
      match anchors.lookup slot with
      | some node => return node
      | none => failure
  | node => return node

/-- A tag of a document's own is an error on a value. -/
def refuseOwnTag (properties : Properties) : Following Unit :=
  if properties.tag.any isOwnTag then failure else pure ()

/-- The key that a node is. -/
def key (anchors : List (Nat × Node)) (node : Node) : Following String := do
  match ← follow anchors node with
  | scalar _ _ text => return text
  | _ => failure

/-- Reads entries by the reader of their values; a key that comes again keeps its place
and takes the later value. -/
def members (anchors : List (Nat × Node)) (value : Node → Following Json) :
    Keyed Json → List (Node × Node) → Following (Keyed Json)
  | taken, [] => return taken
  | taken, (k, v) :: rest => do
    let k ← key anchors k
    let v ← value v
    members anchors value (taken.put k v) rest

/-- The value of a node whose collections nest at most `depth` deep. -/
def value (anchors : List (Nat × Node)) (depth : Nat) (node : Node) : Following Json := do
  match ← follow anchors node with
  | scalar properties plain text =>
    match scalarValue? properties.tag plain text with
    | some value => return value
    | none => failure
  | sequence properties items =>
    match depth with
    | 0 => failure
    | depth + 1 =>
      refuseOwnTag properties
      return .array (← items.mapM (value anchors depth))
  | mapping properties entries =>
    match depth with
    | 0 => failure
    | depth + 1 =>
      refuseOwnTag properties
      return .object (← members anchors (value anchors depth) [] entries)
  | aliasOf _ => failure

/-- How often aliases may be followed for each part of a tree. -/
def followLimit : Nat := 100

/-- The value of the tree of a document. -/
def value? (maxDepth : Nat) (root : Node) : Option Json :=
  let anchors := root.anchored.reverse
  ((root.value anchors maxDepth).run (root.size * followLimit)).map Prod.fst

end Node

end SchemaForms.Yaml
