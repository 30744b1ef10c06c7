/-
The whole way from a specification to files. A generator has its settings, its rules and
its renderer. It loads the specification, makes the forms, renders them under the layout
that the settings and the document call for, and writes the files below the output
directory.

Before anything is written, every file name has been checked: one that leads out of the
output directory stops the writing while the files are as they were. Later refusals come
from the operating system, and what was written before them stays.

The operations are written once for everything that gives access to files, so that what
runs on the machine is what can be reasoned about on a file system. A specification may
also be at an address on the web. What is there, and how it is asked for, is not the
business of a generator: it is told how to fetch a text.
-/
import SchemaForms.FileSystem.Basic
import SchemaForms.Render.Angular
import SchemaForms.Rule.Standard
import SchemaForms.Spec.Basic

set_option autoImplicit false

namespace SchemaForms

/-- What is asked of a generator. -/
structure Settings where
  /-- Where the specification is: a path or an address on the web. -/
  input : String := "swagger.json"
  /-- The directory that files are written to. -/
  directory : Path := Path.ofText "."
  /-- The name of the file, or what the names of all files end in. -/
  fileName : Option String := none
  /-- One file for each definition? -/
  perDefinition : Bool := false

structure Generator where
  settings : Settings
  rules : Registry := .standard
  renderer : Renderer := Angular.renderer

/-- What was generated. -/
structure Summary where
  forms : Nat
  /-- Controls in all forms, a template counted once. -/
  controls : Nat
  files : List Path

/-- A way to fetch the text at an address on the web; it tells why when it fails. -/
abbrev Fetch (m : Type → Type) :=
  String → m (Except LoadFault String)

/-- How a program without a web client fetches. -/
def Fetch.offline {m : Type → Type} [Monad m] : Fetch m :=
  fun _ => return .error .unreachable

namespace Generator

/-! ## Without files -/

/-- The layout for a document: the name asked for, else the one its title suggests, else
the default. -/
def layout (generator : Generator) (document : Document) : Layout :=
  let extension := generator.renderer.extension
  let name :=
    match generator.settings.fileName with
    | some name => name
    | none => (document.fileName? extension).getD (Layout.defaultStem ++ "." ++ extension)
  if generator.settings.perDefinition then .perDefinition name else .single name

/-- The forms of a document. -/
def forms (generator : Generator) (document : Document) :
    Except Failure (Logged (List Form)) :=
  document.forms generator.rules

/-- The files for the forms of a document. -/
def filesFor (generator : Generator) (document : Document) (forms : List Form) :
    List SourceFile :=
  (generator.layout document).files generator.renderer forms

/-- The files for a document. -/
def generate (generator : Generator) (document : Document) :
    Except Failure (Logged (List SourceFile)) :=
  match generator.forms document with
  | .error e => .error e
  | .ok forms => .ok do return generator.filesFor document (← forms)

/-- Where a file goes. -/
def outputPath (directory : Path) (name : String) : Except Failure Path :=
  let path := directory.join (Path.ofText name)
  if (Path.ofText name).staysBelow then .ok path else .error (.write path .leavesDirectory)

/-- Where files go, with what goes there; the first name that leads elsewhere fails. -/
def outputPaths (directory : Path) : List SourceFile → Except Failure (List (Path × String))
  | [] => .ok []
  | file :: rest =>
    match outputPath directory file.name with
    | .error e => .error e
    | .ok path =>
      match outputPaths directory rest with
      | .error e => .error e
      | .ok others => .ok ((path, file.content) :: others)

/-! ## With files -/

variable {m : Type → Type} [Monad m] [Files m]

/-- The text of the specification, from a file or from the web. -/
def sourceText (generator : Generator) (fetch : Fetch m) : m (Except LoadFault String) := do
  let input := generator.settings.input
  if isUrl input then
    fetch input
  else
    match ← Files.read (Path.ofText input) with
    | .error e => return .error (.unreadable e)
    | .ok content =>
      match String.fromUTF8? content with
      | none => return .error .notText
      | some text => return .ok text

/-- Loads the document of the specification. -/
def load (generator : Generator) (fetch : Fetch m := .offline) :
    m (Except Failure (Logged Document)) := do
  let input := generator.settings.input
  match ← generator.sourceText fetch with
  | .error fault => return .error (.load input fault)
  | .ok text => return Spec.parse input text

/-- Loads the document and makes its forms. -/
def check (generator : Generator) (fetch : Fetch m := .offline) :
    m (Except Failure (Logged (List Form))) := do
  match ← generator.load fetch with
  | .error e => return .error e
  | .ok document =>
    match generator.forms document.value with
    | .error e => return .error e
    | .ok forms => return .ok (document >>= fun _ => forms)

/-- Writes files one after the other, each after the directory it lies in. -/
def writeAll : List (Path × String) → m (Except Failure (List Path))
  | [] => return .ok []
  | (path, content) :: rest => do
    let directory := path.parent?.getD (Path.ofText "")
    match ← Files.ensureDirectories directory with
    | .error e => return .error (.write directory (.refused e))
    | .ok () =>
      match ← Files.write path content.toUTF8 with
      | .error e => return .error (.write path (.refused e))
      | .ok () =>
        match ← writeAll rest with
        | .error e => return .error e
        | .ok paths => return .ok (path :: paths)

/-- Writes files below the output directory. -/
def write (generator : Generator) (files : List SourceFile) :
    m (Except Failure (List Path)) := do
  let directory := generator.settings.directory
  match outputPaths directory files with
  | .error e => return .error e
  | .ok paths =>
    match ← Files.ensureDirectories directory with
    | .error e => return .error (.write directory (.refused e))
    | .ok () => writeAll paths

/-- Goes the whole way. -/
def compile (generator : Generator) (fetch : Fetch m := .offline) :
    m (Except Failure (Logged Summary)) := do
  match ← generator.load fetch with
  | .error e => return .error e
  | .ok document =>
    match generator.forms document.value with
    | .error e => return .error e
    | .ok forms =>
      match ← generator.write (generator.filesFor document.value forms.value) with
      | .error e => return .error e
      | .ok files =>
        return .ok do
          let _ ← document
          let forms ← forms
          return { forms := forms.length, controls := Form.totalControls forms, files }

end Generator

end SchemaForms
