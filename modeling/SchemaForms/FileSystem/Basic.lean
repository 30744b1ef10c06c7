/-
A file system without links: directories and files by location, where a location is the
list of names on the way from the root. The root is a directory that is always there.

A path is looked up part by part from the root or from the working directory. Every part
but the last has to lead to a directory; a point stays, two points go up, and at the
root they stay too. What happens at the last part depends on what is to be done there,
so the look-up stops in front of it (`Spot`).

Three operations are offered: reading a file, writing a file, and making a directory.
What else the program needs is made of them, and works for everything that gives access
to files. Making a directory together with the directories on the way to it may be
refused after some of them have been made.
-/
import SchemaForms.FileSystem.OsError
import SchemaForms.FileSystem.Path

set_option autoImplicit false

namespace SchemaForms

/-- The names on the way from the root. -/
abbrev Location := List String

inductive Entry where
  | file (content : ByteArray)
  | directory

/-- Directories and files by location, and where relative paths begin. -/
structure FileSystem where
  entries : List (Location × Entry)
  workingDirectory : Location

namespace FileSystem

/-! ## Entries -/

/-- What is at a location. -/
def entry? (fs : FileSystem) (location : Location) : Option Entry :=
  if location = [] then some .directory else fs.entries.lookup location

/-- The file system with something put at a location. -/
def put (fs : FileSystem) (location : Location) (entry : Entry) : FileSystem :=
  { fs with entries := (location, entry) :: fs.entries.filter (·.1 ≠ location) }

/-! ## Looking up paths -/

/-- The longest name of an entry, in bytes. -/
def longestName : Nat := 255

/-- The longest path, in bytes. -/
def longestPath : Nat := 4095

/-- The location one part down from a directory, if that is a directory too. -/
def step (fs : FileSystem) (directory : Location) (part : String) :
    Except OsError Location :=
  if part = "" ∨ part = "." then .ok directory
  else if part = ".." then .ok directory.dropLast
  else if longestName < part.utf8ByteSize then .error .nameTooLong
  else
    match fs.entry? (directory ++ [part]) with
    | none => .error .notFound
    | some (.file _) => .error .notDirectory
    | some .directory => .ok (directory ++ [part])

/-- Goes down part by part. -/
def walk (fs : FileSystem) (directory : Location) : List String → Except OsError Location
  | [] => .ok directory
  | part :: rest =>
    match fs.step directory part with
    | .ok next => walk fs next rest
    | .error e => .error e

/-- Where a path ends: in front of its last part, which is a name, or on a directory. -/
inductive Spot where
  | name (directory : Location) (name : String)
  | directory (location : Location)

/-- Looks up a path, except for a name at its end. -/
def locate (fs : FileSystem) (path : Path) : Except OsError Spot :=
  if path.text.toList.contains '\x00' then .error .holdsNul
  else if path.isEmpty then .error .notFound
  else if longestPath < path.text.utf8ByteSize then .error .nameTooLong
  else
    let start := if path.isAbsolute then [] else fs.workingDirectory
    let parts := path.parts.filter (· ≠ "")
    match parts.getLast? with
    | none => .ok (.directory start)
    | some last =>
      match fs.walk start parts.dropLast with
      | .error e => .error e
      | .ok directory =>
        if last = "." then .ok (.directory directory)
        else if last = ".." then .ok (.directory directory.dropLast)
        else .ok (.name directory last)

/-- What a name in a directory leads to. -/
def lookup (fs : FileSystem) (directory : Location) (name : String) :
    Except OsError Entry :=
  if longestName < name.utf8ByteSize then .error .nameTooLong
  else
    match fs.entry? (directory ++ [name]) with
    | some entry => .ok entry
    | none => .error .notFound

/-! ## Operations -/

/-- The content of a file. -/
def read (fs : FileSystem) (path : Path) : Except OsError ByteArray :=
  match fs.locate path with
  | .error e => .error e
  | .ok (.directory _) => .error .isDirectory
  | .ok (.name directory name) =>
    match fs.lookup directory name with
    | .error e => .error e
    | .ok .directory => .error .isDirectory
    | .ok (.file content) => if path.endsOpen then .error .notDirectory else .ok content

/-- Writes a file, a new one or over an old one. -/
def write (fs : FileSystem) (path : Path) (content : ByteArray) :
    Except OsError FileSystem :=
  match fs.locate path with
  | .error e => .error e
  | .ok (.directory _) => .error .isDirectory
  | .ok (.name directory name) =>
    if path.endsOpen then .error .isDirectory
    else
      match fs.lookup directory name with
      | .ok .directory => .error .isDirectory
      | .error .notFound => .ok (fs.put (directory ++ [name]) (.file content))
      | .ok (.file _) => .ok (fs.put (directory ++ [name]) (.file content))
      | .error e => .error e

/-- Makes one directory, which must not be there yet. -/
def makeDirectory (fs : FileSystem) (path : Path) : Except OsError FileSystem :=
  match fs.locate path with
  | .error e => .error e
  | .ok (.directory _) => .error .alreadyExists
  | .ok (.name directory name) =>
    match fs.lookup directory name with
    | .ok _ => .error .alreadyExists
    | .error .notFound => .ok (fs.put (directory ++ [name]) .directory)
    | .error e => .error e

end FileSystem

/-! ## Access -/

/-- What gives access to files: a file system that is carried along, or the machine. -/
class Files (m : Type → Type) where
  read : Path → m (Except OsError ByteArray)
  write : Path → ByteArray → m (Except OsError Unit)
  makeDirectory : Path → m (Except OsError Unit)

/-- A refused operation leaves the file system as it is. -/
def FileSystem.tryTo (operation : FileSystem → Except OsError FileSystem) :
    StateM FileSystem (Except OsError Unit) := fun fs =>
  match operation fs with
  | .ok fs => (.ok (), fs)
  | .error e => (.error e, fs)

instance : Files (StateM FileSystem) where
  read path := fun fs => (fs.read path, fs)
  write path content := FileSystem.tryTo (·.write path content)
  makeDirectory path := FileSystem.tryTo (·.makeDirectory path)

namespace Files

variable {m : Type → Type} [Monad m] [Files m]

/-- Does the path lead to a directory? Then that is why it cannot be read. -/
def isDirectory (path : Path) : m Bool := do
  match ← read path with
  | .error .isDirectory => return true
  | _ => return false

/-- Makes a directory unless it is there; whatever else is in its place is refused. -/
def ensureDirectory (path : Path) : m (Except OsError Unit) := do
  match ← makeDirectory path with
  | .ok () => return .ok ()
  | .error e => if ← isDirectory path then return .ok () else return .error e

/-- Makes the first of the directories, and the others before it where they are
missing; each lies in the next. -/
def ensureChain : List Path → m (Except OsError Unit)
  | [] => return .ok ()
  | path :: above => do
    match ← ensureDirectory path with
    | .error .notFound =>
      match ← ensureChain above with
      | .ok () => ensureDirectory path
      | .error e => return .error e
    | result => return result

/-- Makes a directory and the directories on the way to it. -/
def ensureDirectories (path : Path) : m (Except OsError Unit) :=
  ensureChain path.ancestors

end Files

end SchemaForms
