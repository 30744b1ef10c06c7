/-
What is loaded is a function of the files and the web. The text of a specification is in a
file or at an address (`textAt`). Once it is there it is parsed, and whether that goes well
or not, all files are as they were (`load_run`).

A run asks the web at most once, and only for its own specification. So two webs that
have the same there are one to it, whatever they have elsewhere (`loaded_congr`), and a
specification in a file is loaded without the web.
-/
import SchemaForms.Generator
import SchemaForms.Proofs.FileSystem.Change

set_option autoImplicit false

namespace SchemaForms

open FileSystem

/-! ## The web -/

/-- The web as a run finds it: the text at each address, or why it cannot be had. -/
abbrev Web :=
  String → Except LoadFault String

/-- Fetching looks at the web, and leaves the files alone. -/
def Web.fetch (web : Web) : Fetch (StateM FileSystem) :=
  fun address => return web address

/-- Two webs give the same answer to those whose specification is at a location. A path is
not asked for, so any two webs do if it is one. -/
def AnswerAlike (input : String) (web other : Web) : Prop :=
  isUrl input = true → web input = other input

theorem AnswerAlike.of_path {input : String} (h : isUrl input = false) (web other : Web) :
    AnswerAlike input web other := by
  intro hurl
  rw [h] at hurl
  cases hurl

/-! ## What is found -/

/-- The text at a location. -/
def FileSystem.textAt (fs : FileSystem) (web : Web) (location : String) :
    Except LoadFault String :=
  if isUrl location then web location
  else
    match fs.read (Path.ofText location) with
    | .error e => .error (.unreadable e)
    | .ok content =>
      match String.fromUTF8? content with
      | none => .error .notText
      | some text => .ok text

theorem textAt_congr {input : String} {web other : Web} (halike : AnswerAlike input web other)
    (fs : FileSystem) : fs.textAt web input = fs.textAt other input := by
  rw [textAt, textAt]
  split
  · rename_i hurl
    exact halike hurl
  · rfl

theorem textAt_of_isUrl {location : String} (h : isUrl location = true) (fs : FileSystem)
    (web : Web) : fs.textAt web location = web location :=
  if_pos h

theorem fromUTF8?_toUTF8 (text : String) : String.fromUTF8? text.toUTF8 = some text :=
  dif_pos text.isValidUTF8

/-- A text in a file that can be read is found there. -/
theorem textAt_of_read {fs : FileSystem} {location text : String} (hlocal : isUrl location = false)
    (hread : fs.read (Path.ofText location) = .ok text.toUTF8) (web : Web) :
    fs.textAt web location = .ok text := by
  rw [textAt, hlocal, if_neg Bool.false_ne_true, hread]
  dsimp only
  rw [fromUTF8?_toUTF8]

/-- The document of the specification, or why it cannot be loaded. -/
def Generator.loaded (generator : Generator) (web : Web) (fs : FileSystem) :
    Except Failure (Logged Document) :=
  match fs.textAt web generator.settings.input with
  | .error fault => .error (.load generator.settings.input fault)
  | .ok text => Spec.parse generator.settings.input text

section

variable {generator : Generator} {web : Web} {fs : FileSystem}

/-- **What is loaded depends on one answer of the web at most.** -/
theorem loaded_congr {other : Web}
    (halike : AnswerAlike generator.settings.input web other) :
    generator.loaded web fs = generator.loaded other fs := by
  rw [Generator.loaded, Generator.loaded, textAt_congr halike]

theorem loaded_of_textAt {text : String}
    (h : fs.textAt web generator.settings.input = .ok text) :
    generator.loaded web fs = Spec.parse generator.settings.input text := by
  rw [Generator.loaded, h]

/-- What was loaded was parsed. -/
theorem parse_of_loaded {document : Logged Document}
    (h : generator.loaded web fs = .ok document) :
    ∃ text, Spec.parse generator.settings.input text = .ok document := by
  rw [Generator.loaded] at h
  split at h
  · cases h
  · exact ⟨_, h⟩

end

/-! ## Loading -/

variable (generator : Generator) (web : Web) (fs : FileSystem)

theorem sourceText_run : (generator.sourceText web.fetch : StateM FileSystem _).run fs =
    (fs.textAt web generator.settings.input, fs) := by
  rw [Generator.sourceText, textAt]
  split
  · rfl
  · -- Reading a file is the only step that looks at the files.
    have hread : (Files.read (Path.ofText generator.settings.input) : StateM FileSystem _).run fs =
        (fs.read (Path.ofText generator.settings.input), fs) := rfl
    rw [run_bind_of_eq hread]
    cases fs.read (Path.ofText generator.settings.input) with
    | error e => rfl
    | ok content =>
      dsimp only
      cases String.fromUTF8? content with
      | none => rfl
      | some text => rfl

/-- **Loading gives what is found, and changes nothing.** -/
theorem load_run : (generator.load web.fetch : StateM FileSystem _).run fs =
    (generator.loaded web fs, fs) := by
  rw [Generator.load, run_bind_of_eq (sourceText_run generator web fs), Generator.loaded]
  cases fs.textAt web generator.settings.input with
  | error fault => rfl
  | ok text => rfl

end SchemaForms
