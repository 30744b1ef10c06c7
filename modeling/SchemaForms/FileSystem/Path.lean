/-
Paths as text. A path is its parts between slashes, the empty ones included, so that it
keeps the spelling it came with: `a//b`, `a/./b` and `a/b` are different paths that lead
to the same place. Messages show the spelling; what a path leads to is decided by its
components, which leave out empty parts and inner points.

A leading slash makes a path absolute, and joining an absolute path to a directory
leaves nothing of the directory.
-/
import SchemaForms.Text.Split

set_option autoImplicit false

namespace SchemaForms

/-- A path by its parts between slashes. -/
structure Path where
  parts : List String
deriving DecidableEq

namespace Path

/-! ## Spelling -/

/-- The path that is spelled so. -/
def ofText (text : String) : Path :=
  { parts := (Text.split '/' text.toList).map String.ofList }

/-- How the path is spelled. -/
def text (path : Path) : String :=
  String.ofList (Text.join '/' (path.parts.map String.toList))

/-- The path that leads nowhere: no text at all. -/
def isEmpty (path : Path) : Bool :=
  path.parts.all (· == "") && path.parts.length ≤ 1

/-- Does the path begin with a slash? -/
def isAbsolute (path : Path) : Bool :=
  match path.parts with
  | "" :: _ :: _ => true
  | _ => false

/-- Does the path end with a slash? -/
def endsOpen (path : Path) : Bool :=
  match path.parts.reverse with
  | "" :: _ :: _ => true
  | _ => false

/-! ## Components -/

inductive Component where
  /-- The slash at the beginning. -/
  | root
  /-- A point at the beginning. -/
  | here
  /-- Two points: one directory up. -/
  | up
  | name (name : String)
deriving DecidableEq

/-- The component of a part that does not begin the path. -/
def component? (part : String) : Option Component :=
  if part = "" ∨ part = "." then none
  else if part = ".." then some .up
  else some (.name part)

/-- Does the part make a component wherever it stands? -/
def counts (part : String) : Bool :=
  (component? part).isSome

/-- What the path leads through. -/
def components (path : Path) : List Component :=
  let start :=
    if path.isAbsolute then [Component.root]
    else if path.parts.head? = some "." then [.here]
    else []
  start ++ path.parts.filterMap component?

/-- The name at the end of the path, if it ends in one. -/
def fileName? (path : Path) : Option String :=
  match path.components.getLast? with
  | some (.name name) => some name
  | _ => none

/-! ## Joining and parents -/

/-- The second path as seen from the first. -/
def join (directory path : Path) : Path :=
  if path.isAbsolute || directory.isEmpty then path
  else if directory.endsOpen then { parts := directory.parts.dropLast ++ path.parts }
  else { parts := directory.parts ++ path.parts }

/-- Parts without the last one that counts and what follows it, and without what then
does not count at the end. -/
def dropLastCounting (parts : List String) : List String :=
  (((parts.reverse.dropWhile (!counts ·)).drop 1).dropWhile (!counts ·)).reverse

/-- The path without its last component; none if there is nothing to leave out. -/
def parent? (path : Path) : Option Path :=
  if path.isAbsolute then
    let inner := path.parts.tail
    if !inner.any counts then none
    else
      match dropLastCounting inner with
      | [] => some { parts := ["", ""] }
      | shorter => some { parts := "" :: shorter }
  else if path.parts.head? = some "." then
    let inner := path.parts.tail
    if inner.any counts then some { parts := "." :: dropLastCounting inner }
    else some { parts := [""] }
  else if !path.parts.any counts then none
  else
    match dropLastCounting path.parts with
    | [] => some { parts := [""] }
    | shorter => some { parts := shorter }

/-- The path, its parent, the parent of that, at most `bound` of them and none empty. -/
def chain : Nat → Path → List Path
  | 0, _ => []
  | bound + 1, path =>
    if path.isEmpty then []
    else
      match path.parent? with
      | some parent => path :: chain bound parent
      | none => [path]

/-- The path and the paths on the way to it, longest first. -/
def ancestors (path : Path) : List Path :=
  chain (path.parts.length + 1) path

/-! ## Names for generated files -/

/-- Does the path stay below a directory it is joined to? It does when it has a name and
leads through names only, points left aside. -/
def staysBelow (path : Path) : Bool :=
  path.components.any (fun c => match c with | .name _ => true | _ => false) &&
    path.components.all (fun c => match c with | .name _ => true | .here => true | _ => false)

end Path

end SchemaForms
