/-
Generated files stay below the output directory. The names of files come from documents,
which are not to be trusted, so every name is checked before anything is done: one that
begins with a slash, goes up, or names nothing is refused, and then nothing has happened
(`outputPaths_eq`). Other names lead straight down from the output directory, and so do
the directories on the way to the files (`place_outputPath`).

The main statement (`write_confined`) is about all file systems and says this of success
and of failure alike: what is made or written is the output directory, a directory on the
way to it, or something below it that is reached by names alone. Nothing is assumed of
the output directory, which may itself go up or be absolute.
-/
import SchemaForms.Generator
import SchemaForms.Proofs.FileSystem.Change

set_option autoImplicit false

namespace SchemaForms

/-! ## Names of files -/

/-- Does the name lead out of the directory that it is joined to, or to no file in it? It
does when it begins with a slash, has two points for a part, or has no part but empty
ones and points. -/
def leadsOut (name : String) : Bool :=
  let parts := (Text.split '/' name.toList).map String.ofList
  name.toList.head? == some '/' || parts.contains ".." ||
    parts.all fun part => part == "" || part == "."

/-- A part that leads down. -/
def IsName (part : String) : Prop :=
  part ≠ "" ∧ part ≠ "." ∧ part ≠ ".." ∧ '/' ∉ part.toList

theorem isAbsolute_ofText (name : String) :
    (Path.ofText name).isAbsolute = (name.toList.head? == some '/') := by
  rw [Bool.eq_iff_iff, Path.isAbsolute_iff, Path.ofText, beq_iff_eq]
  cases name.toList with
  | nil => simp [Text.split]
  | cons c rest =>
    obtain ⟨part, parts, hsplit⟩ := List.exists_cons_of_ne_nil (Text.split_ne_nil '/' rest)
    rw [Text.split, hsplit]
    by_cases hc : c = '/'
    · simp [hc]
    · rw [if_neg hc]
      simp [hc]

theorem isName_of_mem_steps {name step : String} (h : step ∈ (Path.ofText name).steps)
    (hup : step ≠ "..") : IsName step := by
  obtain ⟨hmem, hcounts⟩ := List.mem_filter.1 h
  obtain ⟨hempty, hpoint⟩ := Path.counts_iff.1 hcounts
  obtain ⟨part, hpart, rfl⟩ := List.mem_map.1 hmem
  refine ⟨hempty, hpoint, hup, ?_⟩
  rw [String.toList_ofList]
  exact Text.separator_not_mem hpart

/-- **The check lets through exactly the names that do not lead out.** -/
theorem staysBelow_ofText (name : String) : (Path.ofText name).staysBelow = !leadsOut name := by
  have hup : ".." ∈ (Path.ofText name).steps ↔ ".." ∈ (Path.ofText name).parts := by
    rw [Path.steps, List.mem_filter]
    exact and_iff_left (by decide)
  have hnone : (Path.ofText name).steps = [] ↔
      ∀ part ∈ (Path.ofText name).parts, part = "" ∨ part = "." := by
    rw [Path.steps, List.filter_eq_nil_iff]
    simp only [Bool.not_eq_true, Path.counts_eq_false_iff]
  rw [Bool.eq_iff_iff, Path.staysBelow_iff, ne_eq, hnone, hup, isAbsolute_ofText, leadsOut,
    Bool.not_eq_true', Bool.or_eq_false_iff, Bool.or_eq_false_iff, and_assoc]
  refine and_congr_right fun _ => ?_
  rw [and_comm]
  refine and_congr ?_ ?_
  · rw [← Bool.not_eq_true, List.contains_iff_mem]
    rfl
  · rw [← Bool.not_eq_true, List.all_eq_true]
    simp only [Bool.or_eq_true, beq_iff_eq]
    rfl

example : ["", "./", "/a", "a/../b"].all leadsOut = true ∧
    ["a", "./a//b", "..a"].all (!leadsOut ·) = true := by
  decide

/-- What the check makes sure of. -/
theorem staysBelow_of_good {name : String} (h : leadsOut name = false) :
    (Path.ofText name).isAbsolute = false ∧ (Path.ofText name).steps ≠ [] ∧
      ".." ∉ (Path.ofText name).steps := by
  apply Path.staysBelow_iff.1
  rw [staysBelow_ofText, h]
  rfl

/-! ## Where files go -/

/-- Where the files go, with what goes there, if no name leads out. -/
def outputs (directory : Path) (files : List SourceFile) : List (Path × String) :=
  files.map fun file => (directory.join (Path.ofText file.name), file.content)

/-- **Either all names are good, or the first that leads out is refused.** -/
theorem outputPaths_eq (directory : Path) (files : List SourceFile) :
    Generator.outputPaths directory files =
      match files.find? (fun file => leadsOut file.name) with
      | some file => .error (.write (directory.join (Path.ofText file.name)) .leavesDirectory)
      | none => .ok (outputs directory files) := by
  induction files with
  | nil => rfl
  | cons file files ih =>
    rw [Generator.outputPaths, Generator.outputPath, List.find?_cons, staysBelow_ofText]
    cases leadsOut file.name with
    | true => rfl
    | false =>
      dsimp only
      rw [ih]
      cases files.find? (fun file => leadsOut file.name) <;> rfl

/-- The output directory, or a directory on the way to it. -/
def OnTheWay (directory : Path) (workingDirectory location : Location) : Prop :=
  ∃ steps, steps <+: directory.steps ∧
    location = (directory.origin workingDirectory).follow steps

/-- Below the output directory, reached by names alone. -/
def Below (directory : Path) (workingDirectory location : Location) : Prop :=
  ∃ names : List String, names ≠ [] ∧ (∀ name ∈ names, IsName name) ∧
    location = directory.place workingDirectory ++ names

section

variable {directory : Path} {name : String}

variable (directory) in
/-- The steps of a file are those of the directory and then names. -/
theorem steps_outputPath (h : leadsOut name = false) :
    (directory.join (Path.ofText name)).steps = directory.steps ++ (Path.ofText name).steps ∧
      (directory.join (Path.ofText name)).isAbsolute = directory.isAbsolute ∧
      (Path.ofText name).steps ≠ [] ∧ ∀ step ∈ (Path.ofText name).steps, IsName step := by
  obtain ⟨hrelative, hne, hup⟩ := staysBelow_of_good h
  obtain ⟨hsteps, hkind⟩ := Path.steps_join directory hrelative
    (Path.ofText_parts_ne_nil name)
  exact ⟨hsteps, hkind, hne, fun step hstep =>
    isName_of_mem_steps hstep fun heq => hup (heq ▸ hstep)⟩

/-- **A file goes straight down from the output directory.** -/
theorem place_outputPath (h : leadsOut name = false) (workingDirectory : Location) :
    (directory.join (Path.ofText name)).place workingDirectory =
      directory.place workingDirectory ++ (Path.ofText name).steps := by
  obtain ⟨hsteps, hkind, -, hnames⟩ := steps_outputPath directory h
  rw [Path.place_eq_follow hkind, hsteps, Location.follow_append,
    Location.follow_names fun hup => (hnames _ hup).2.2.1 rfl]
  rfl

theorem below_outputPath (h : leadsOut name = false) (workingDirectory : Location) :
    Below directory workingDirectory ((directory.join (Path.ofText name)).place workingDirectory) :=
  have ⟨_, _, hne, hnames⟩ := steps_outputPath directory h
  ⟨_, hne, hnames, place_outputPath h workingDirectory⟩

/-- What begins with the steps of a file is on the way to the output directory or below. -/
theorem onTheWay_or_below {names steps : List String} {workingDirectory : Location}
    (hnames : ∀ name ∈ names, IsName name) (h : steps <+: directory.steps ++ names) :
    OnTheWay directory workingDirectory ((directory.origin workingDirectory).follow steps) ∨
      Below directory workingDirectory ((directory.origin workingDirectory).follow steps) := by
  rcases List.prefix_or_prefix_of_prefix h (List.prefix_append _ _) with hway | ⟨rest, rfl⟩
  · exact .inl ⟨steps, hway, rfl⟩
  · rw [List.prefix_append_right_inj] at h
    by_cases hrest : rest = []
    · rw [hrest, List.append_nil]
      exact .inl ⟨directory.steps, List.prefix_rfl, rfl⟩
    · have hrestNames : ∀ name ∈ rest, IsName name := fun name hname => hnames name (h.subset hname)
      refine .inr ⟨rest, hrest, hrestNames, ?_⟩
      rw [Location.follow_append, Location.follow_names fun hup => (hrestNames _ hup).2.2.1 rfl]
      rfl

/-- The directory that a file lies in, and those on the way to it. -/
theorem onTheWay_or_below_of_parent (h : leadsOut name = false) (workingDirectory : Location)
    {other : Path}
    (hother : other ∈
      (((directory.join (Path.ofText name)).parent?).getD (Path.ofText "")).ancestors) :
    OnTheWay directory workingDirectory (other.place workingDirectory) ∨
      Below directory workingDirectory (other.place workingDirectory) := by
  obtain ⟨hsteps, hkind, -, hnames⟩ := steps_outputPath directory h
  cases hparent : (directory.join (Path.ofText name)).parent? with
  | none =>
    -- The path without text has nothing on the way to it.
    rw [hparent] at hother
    cases (show other ∈ [] from hother)
  | some parent =>
    rw [hparent] at hother
    obtain ⟨hparentSteps, hparentKind⟩ := Path.parent?_eq_some hparent
    obtain ⟨hbeginning, hotherKind⟩ := Path.steps_of_mem_ancestors hother
    rw [Option.getD_some] at hbeginning hotherKind
    rw [Path.place_eq_follow (hotherKind.trans (hparentKind.trans hkind))]
    refine onTheWay_or_below hnames (hbeginning.trans ?_)
    rw [hparentSteps, hsteps]
    exact List.dropLast_prefix _

end

/-! ## Writing -/

open FileSystem

section

variable {made written : Location → Prop} {workingDirectory : Location}

/-- Writing files changes their places and those of the directories they lie in. -/
theorem confines_writeAll {files : List (Path × String)}
    (hfiles : ∀ file ∈ files, written (file.1.place workingDirectory) ∧
      ∀ other ∈ (file.1.parent?.getD (Path.ofText "")).ancestors,
        made (other.place workingDirectory)) :
    Confines made written workingDirectory
      (Generator.writeAll files : StateM FileSystem (Except Failure (List Path))) := by
  induction files with
  | nil => exact .pure _
  | cons file files ih =>
    obtain ⟨path, content⟩ := file
    obtain ⟨hplace, hparents⟩ := hfiles _ List.mem_cons_self
    refine (confines_ensureDirectories hparents).bind fun result => ?_
    split
    · exact .pure _
    · refine (confines_write hplace _).bind fun result => ?_
      split
      · exact .pure _
      · refine (ih fun other hother => hfiles other (List.mem_cons_of_mem _ hother)).bind
          fun result => ?_
        split
        · exact .pure _
        · exact .pure _

end

/-- A run of `writeAll` that succeeds, taken apart: the first file was written, and then
the others were. -/
theorem writeAll_cons_eq_ok {path : Path} {content : String} {files : List (Path × String)}
    {fs after : FileSystem} {paths : List Path}
    (h : (Generator.writeAll ((path, content) :: files) : StateM FileSystem _).run fs =
      (.ok paths, after)) :
    ∃ before first others,
      (Files.ensureDirectories (path.parent?.getD (Path.ofText "")) : StateM FileSystem _).run fs =
        (.ok (), before) ∧
      before.write path content.toUTF8 = .ok first ∧
      (Generator.writeAll files : StateM FileSystem _).run first = (.ok others, after) ∧
      paths = path :: others := by
  rw [Generator.writeAll] at h
  obtain ⟨ensured, before, hensured, h⟩ := run_bind_eq h
  cases ensured with
  | error e => cases h
  | ok _ =>
    obtain ⟨result, first, hwrite, h⟩ := run_bind_eq h
    rcases run_write_eq hwrite with ⟨rfl, hwritten⟩ | ⟨e, rfl, -⟩
    · obtain ⟨rest, last, hrest, h⟩ := run_bind_eq h
      cases rest with
      | error e => cases h
      | ok others =>
        obtain ⟨hpaths, rfl⟩ := Prod.mk.inj h
        exact ⟨before, first, others, hensured, hwritten, hrest, (Except.ok.inj hpaths).symm⟩
    · cases h

/-- Writing returns the paths in order. -/
theorem paths_of_writeAll {files : List (Path × String)} {fs after : FileSystem}
    {paths : List Path}
    (h : (Generator.writeAll files : StateM FileSystem _).run fs = (.ok paths, after)) :
    paths = files.map Prod.fst := by
  induction files generalizing fs paths with
  | nil => exact (Except.ok.inj (Prod.mk.inj h).1).symm
  | cons file files ih =>
    obtain ⟨before, first, others, -, -, hrest, rfl⟩ := writeAll_cons_eq_ok h
    rw [ih hrest, List.map_cons]

section

variable {generator : Generator} {files : List SourceFile}

theorem write_of_leadsOut {file : SourceFile}
    (h : files.find? (fun file => leadsOut file.name) = some file) :
    (generator.write files : StateM FileSystem (Except Failure (List Path))) =
      pure (.error (.write (generator.settings.directory.join (Path.ofText file.name))
        .leavesDirectory)) := by
  rw [Generator.write, outputPaths_eq, h]

/-- Writing output begins with the output directory, if no name leads out. -/
theorem write_of_good (h : files.find? (fun file => leadsOut file.name) = none) :
    (generator.write files : StateM FileSystem (Except Failure (List Path))) =
      Files.ensureDirectories generator.settings.directory >>= fun result =>
        match result with
        | .error e => pure (.error (.write generator.settings.directory (.refused e)))
        | .ok () => Generator.writeAll (outputs generator.settings.directory files) := by
  rw [Generator.write, outputPaths_eq]
  cases hfind : files.find? (fun file => leadsOut file.name) with
  | some file =>
    rw [h] at hfind
    cases hfind
  | none => rfl

theorem good_of_find? (h : files.find? (fun file => leadsOut file.name) = none) :
    ∀ file ∈ files, leadsOut file.name = false := by
  intro file hfile
  simpa using List.find?_eq_none.1 h file hfile

variable (generator) in
/-- Writing output changes only what is on the way to the output directory or below. -/
theorem confines_write_output (h : files.find? (fun file => leadsOut file.name) = none)
    (workingDirectory : Location) :
    Confines
      (fun location => OnTheWay generator.settings.directory workingDirectory location ∨
        Below generator.settings.directory workingDirectory location)
      (Below generator.settings.directory workingDirectory) workingDirectory
      (generator.write files : StateM FileSystem (Except Failure (List Path))) := by
  rw [write_of_good h]
  refine (confines_ensureDirectories fun other hother => ?_).bind fun result => ?_
  · obtain ⟨hbeginning, hkind⟩ := Path.steps_of_mem_ancestors hother
    exact .inl ⟨other.steps, hbeginning, Path.place_eq_follow hkind workingDirectory⟩
  · -- Refused directories end the run; else the files go below and so do their directories.
    split
    · exact .pure _
    · refine confines_writeAll fun output houtput => ?_
      obtain ⟨file, hfile, rfl⟩ := List.mem_map.1 houtput
      have hgood := good_of_find? h file hfile
      exact ⟨below_outputPath hgood workingDirectory,
        fun other hother => onTheWay_or_below_of_parent hgood workingDirectory hother⟩

/-- A run that succeeds, taken apart: no name leads out, and after the output directory the
files were written. -/
theorem write_eq_ok {fs after : FileSystem} {paths : List Path}
    (h : (generator.write files : StateM FileSystem _).run fs = (.ok paths, after)) :
    files.find? (fun file => leadsOut file.name) = none ∧
    ∃ before, (Files.ensureDirectories generator.settings.directory : StateM FileSystem _).run fs =
        (.ok (), before) ∧
      (Generator.writeAll (outputs generator.settings.directory files) :
        StateM FileSystem _).run before = (.ok paths, after) := by
  cases hfind : files.find? (fun file => leadsOut file.name) with
  | some file =>
    rw [write_of_leadsOut hfind] at h
    cases h
  | none =>
    rw [write_of_good hfind] at h
    obtain ⟨ensured, before, hensured, h⟩ := run_bind_eq h
    cases ensured with
    | error e => cases h
    | ok _ => exact ⟨rfl, before, hensured, h⟩

/-- A run that succeeds returns the path of each file, in order. -/
theorem paths_of_write {fs after : FileSystem} {paths : List Path}
    (h : (generator.write files : StateM FileSystem _).run fs = (.ok paths, after)) :
    paths = files.map fun file => generator.settings.directory.join (Path.ofText file.name) := by
  obtain ⟨-, before, -, hall⟩ := write_eq_ok h
  rw [paths_of_writeAll hall, outputs, List.map_map]
  rfl

end

/-- **Output is confined.** A name that leads out is refused, the first one if there are
several, and then nothing has happened. Otherwise, whether the run succeeds or fails, what
it makes or writes is the output directory, a directory on the way to it, or something
below it; all the rest stays as it is. A run that succeeds returns one path for each file,
in order. -/
theorem write_confined (generator : Generator) (files : List SourceFile) (fs : FileSystem) :
    let directory := generator.settings.directory
    let onTheWay := OnTheWay directory fs.workingDirectory
    let below := Below directory fs.workingDirectory
    let (result, after) :=
      (generator.write files : StateM FileSystem (Except Failure (List Path))).run fs
    match files.find? (fun file => leadsOut file.name) with
    | some file =>
      result = .error (.write (directory.join (Path.ofText file.name)) .leavesDirectory) ∧
        after = fs
    | none =>
      Changes (fun location => onTheWay location ∨ below location) below fs after ∧
        (∀ location, ¬onTheWay location → ¬below location →
          after.entry? location = fs.entry? location) ∧
        ∀ paths, result = .ok paths →
          paths = files.map fun file => directory.join (Path.ofText file.name) := by
  cases hfind : files.find? (fun file => leadsOut file.name) with
  | some file =>
    rw [write_of_leadsOut hfind]
    exact ⟨rfl, rfl⟩
  | none =>
    have hchanges := confines_write_output generator hfind fs.workingDirectory fs rfl
    refine ⟨hchanges, fun location hway hbelow => ?_, fun paths hok => ?_⟩
    · exact hchanges.elsewhere (not_or.2 ⟨hway, hbelow⟩) hbelow
    · exact paths_of_write (Prod.ext hok rfl)

end SchemaForms
