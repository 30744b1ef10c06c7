/-
From tokens to the tree of nodes that a document is. A node is a scalar, a sequence, a
mapping or an alias, and all but aliases may have an anchor and a tag. Where the text
leaves a node out, between a dash and the next, or behind a colon, there is an empty
plain scalar.

The reader goes down by the depth of the tree: each collection leaves one level less for
what it holds, so a collection at level 0 is refused. The entries of one collection are
read by a loop that is given the reader for the level below and a bound on their number.
-/
import SchemaForms.Yaml.Tag
import SchemaForms.Yaml.Token

set_option autoImplicit false

namespace SchemaForms.Yaml

/-- What may be said of a node in front of it. -/
structure Properties where
  anchor : Option Nat := none
  tag : Option (List Char) := none

inductive Node where
  | aliasOf (slot : Nat)
  | scalar (properties : Properties) (plain : Bool) (text : String)
  | sequence (properties : Properties) (items : List Node)
  | mapping (properties : Properties) (entries : List (Node × Node))

/-- What handles stand for. -/
abbrev Handles := List (List Char × List Char)

namespace Node

/-- The node that has been left out. -/
def empty : Node := scalar {} true ""

/-! ## Properties -/

/-- The tag that a handle and a suffix name. -/
def tagOf? (handles : Handles) (handle suffix : List Char) : Option (List Char) :=
  match handle with
  | [] => some suffix
  | handle => (handles.lookup handle).map (· ++ suffix)

/-- Reads an anchor and a tag in either order, as far as they are there. -/
def properties? (handles : Handles) : List Token → Option (Properties × List Token)
  | .anchor slot :: .tag handle suffix :: rest => do
    some ({ anchor := some slot, tag := some (← tagOf? handles handle suffix) }, rest)
  | .anchor slot :: rest => some ({ anchor := some slot }, rest)
  | .tag handle suffix :: .anchor slot :: rest => do
    some ({ anchor := some slot, tag := some (← tagOf? handles handle suffix) }, rest)
  | .tag handle suffix :: rest => do
    some ({ tag := some (← tagOf? handles handle suffix) }, rest)
  | rest => some ({}, rest)

/-! ## Collections -/

/-- What reads a node at the beginning of tokens and returns the rest. -/
abbrev Reader := List Token → Option (Node × List Token)

/-- Reads a node, which is left out if the next token is one of those given. -/
def readUnless (ends : List Token) (read : Reader) : Reader
  | [] => none
  | token :: rest =>
    if ends.contains token then some (empty, token :: rest) else read (token :: rest)

/-- Reads the entries of a block sequence up to its end. -/
def blockItems? (read : Reader) (taken : List Node) :
    Nat → List Token → Option (List Node × List Token)
  | bound + 1, .entry :: rest =>
    match readUnless [.entry, .blockEnd] read rest with
    | some (item, rest) => blockItems? read (item :: taken) bound rest
    | none => none
  | _, .blockEnd :: rest => some (taken.reverse, rest)
  | _, _ => none

/-- Reads the entries of a block sequence that is not indented: it stands in the column
of the key in front of it, and ends where the mapping goes on. -/
def flushItems? (read : Reader) (taken : List Node) :
    Nat → List Token → Option (List Node × List Token)
  | bound + 1, .entry :: rest =>
    match readUnless [.entry, .key, .value, .blockEnd] read rest with
    | some (item, rest) => flushItems? read (item :: taken) bound rest
    | none => none
  | 0, .entry :: _ => none
  | _, rest => some (taken.reverse, rest)

/-- Reads the value of an entry, which is left out if there is no colon, and may be left
out behind one. -/
def valueOf? (ends : List Token) (read : Reader) : Reader
  | .value :: rest => readUnless ends read rest
  | rest => some (empty, rest)

/-- Reads the entries of a block mapping up to its end. -/
def blockEntries? (read : Reader) (taken : List (Node × Node)) :
    Nat → List Token → Option (List (Node × Node) × List Token)
  | bound + 1, .key :: rest =>
    match readUnless [.key, .value, .blockEnd] read rest with
    | none => none
    | some (key, rest) =>
      match valueOf? [.key, .value, .blockEnd] read rest with
      | some (value, rest) => blockEntries? read ((key, value) :: taken) bound rest
      | none => none
  | _, .blockEnd :: rest => some (taken.reverse, rest)
  | _, _ => none

/-- Passes the comma in front of an entry that is not the first. -/
def separated? (first : Bool) : List Token → Option (List Token)
  | .comma :: rest => some (if first then .comma :: rest else rest)
  | rest => if first then some rest else none

/-- Reads a mapping of one entry inside a flow sequence, after the mark of its key. If
the key is left out, the token in its place is passed, whatever it is. -/
def pair? (read : Reader) (tokens : List Token) : Option (Node × List Token) := do
  let ends : List Token := [.comma, .closeSequence]
  let (key, rest) ←
    match tokens with
    | [] => none
    | token :: rest =>
      if token = .value ∨ ends.contains token then some (empty, rest)
      else read (token :: rest)
  let (value, rest) ← valueOf? ends read rest
  some (mapping {} [(key, value)], rest)

/-- Reads the items of a flow sequence up to its closing bracket. -/
def flowItems? (read pair : Reader) (taken : List Node) :
    Nat → List Token → Option (List Node × List Token)
  | _, .closeSequence :: rest => some (taken.reverse, rest)
  | 0, _ => none
  | bound + 1, tokens =>
    match separated? taken.isEmpty tokens with
    | none => none
    | some (.closeSequence :: rest) => some (taken.reverse, rest)
    | some (.key :: rest) =>
      match pair rest with
      | some (item, rest) => flowItems? read pair (item :: taken) bound rest
      | none => none
    | some rest =>
      match read rest with
      | some (item, rest) => flowItems? read pair (item :: taken) bound rest
      | none => none

/-- Reads the entries of a flow mapping up to its closing brace. -/
def flowEntries? (read : Reader) (taken : List (Node × Node)) :
    Nat → List Token → Option (List (Node × Node) × List Token)
  | _, .closeMapping :: rest => some (taken.reverse, rest)
  | 0, _ => none
  | bound + 1, tokens =>
    match separated? taken.isEmpty tokens with
    | none => none
    | some (.closeMapping :: rest) => some (taken.reverse, rest)
    | some (.key :: rest) =>
      match readUnless [.value, .comma, .closeMapping] read rest with
      | none => none
      | some (key, rest) =>
        match valueOf? [.comma, .closeMapping] read rest with
        | some (value, rest) => flowEntries? read ((key, value) :: taken) bound rest
        | none => none
    | some rest =>
      match read rest with
      | some (key, rest) => flowEntries? read ((key, empty) :: taken) bound rest
      | none => none

/-! ## Nodes -/

/-- Where a node stands, which says which collections may begin there. -/
inductive Position where
  | flow
  | block
  /-- In a block mapping, where a sequence need not be indented. -/
  | entry
deriving DecidableEq

/-- How a collection is written. -/
inductive Style where
  | flowSequence
  | flowMapping
  | blockSequence
  | blockMapping
  /-- A block sequence that is not indented. -/
  | flushSequence

/-- The collection that begins here, and the tokens of its entries. -/
def collection? : Position → List Token → Option (Style × List Token)
  | _, .openSequence :: rest => some (.flowSequence, rest)
  | _, .openMapping :: rest => some (.flowMapping, rest)
  | .flow, _ => none
  | _, .blockSequence :: rest => some (.blockSequence, rest)
  | _, .blockMapping :: rest => some (.blockMapping, rest)
  | .entry, .entry :: rest => some (.flushSequence, .entry :: rest)
  | _, _ => none

/-- Reads a node whose collections nest at most `depth` deep and hold at most `bound`
entries each. -/
def node? (handles : Handles) (bound : Nat) (depth : Nat) (position : Position)
    (tokens : List Token) : Option (Node × List Token) := do
  if let .aliasOf slot :: rest := tokens then
    return (aliasOf slot, rest)
  let (properties, tokens) ← properties? handles tokens
  if let .scalar plain text :: rest := tokens then
    return (scalar properties plain text, rest)
  match depth, collection? position tokens with
  | _, none =>
    if properties.anchor.isSome || properties.tag.isSome then
      return (scalar properties true "", tokens)
    else
      none
  | 0, some _ => none
  | depth + 1, some (.flowSequence, rest) =>
    let pair : Reader :=
      match depth with
      | 0 => fun _ => none
      | depth + 1 => pair? (node? handles bound depth .flow)
    let (items, rest) ← flowItems? (node? handles bound depth .flow) pair [] bound rest
    return (sequence properties items, rest)
  | depth + 1, some (.flowMapping, rest) =>
    let (entries, rest) ← flowEntries? (node? handles bound depth .flow) [] bound rest
    return (mapping properties entries, rest)
  | depth + 1, some (.blockSequence, rest) =>
    let (items, rest) ← blockItems? (node? handles bound depth .block) [] bound rest
    return (sequence properties items, rest)
  | depth + 1, some (.blockMapping, rest) =>
    let (entries, rest) ← blockEntries? (node? handles bound depth .entry) [] bound rest
    return (mapping properties entries, rest)
  | depth + 1, some (.flushSequence, rest) =>
    let (items, rest) ← flushItems? (node? handles bound depth .block) [] bound rest
    return (sequence properties items, rest)

/-! ## Documents -/

/-- Does the token belong to what is in front of a document? -/
def isPreamble : Token → Bool
  | .version _ _ => true
  | .handle _ _ => true
  | _ => false

/-- May a document have been declared to be of this version? -/
def isKnownVersion (major minor : Nat) : Bool :=
  major == 1 && (minor == 1 || minor == 2)

/-- Reads directives, each of which is given once, up to the mark of a document. -/
def directives? (versioned : Bool) (handles : Handles) :
    List Token → Option (Handles × List Token)
  | .version major minor :: rest =>
    if versioned || !isKnownVersion major minor then none else directives? true handles rest
  | .handle handle meaning :: rest =>
    if handles.any (·.1 == handle) then none
    else directives? versioned (handles ++ [(handle, meaning)]) rest
  | .documentStart :: rest => some (handles, rest)
  | _ => none

/-- Reads a document and the mark at its end. A stream without tokens has none. -/
def document? (maxDepth : Nat) (tokens : List Token) : Option (Node × List Token) := do
  let bound := tokens.length
  match tokens with
  | [] => return (empty, [])
  | first :: _ =>
    if isPreamble first || first = .documentStart then
      let (handles, rest) ← directives? false [] tokens
      let ends (token : Token) : Bool :=
        isPreamble token || token == .documentStart || token == .documentEnd
      if rest.head?.all ends then return (empty, rest)
      else node? (handles ++ standardHandles) bound maxDepth .block rest
    else
      node? standardHandles bound maxDepth .block tokens

/-- The root of the only document of a stream. -/
def ofTokens? (maxDepth : Nat) (tokens : List Token) : Option Node :=
  match document? maxDepth tokens with
  | some (root, rest) => if rest.all (· = .documentEnd) then some root else none
  | none => none

end Node

end SchemaForms.Yaml
