/-
What the files hold after a run. Files are written one after the other, and a path that
could be followed once can be followed ever after; so after a run that succeeds every file
can be read, and what is read at a place is what was written there last
(`read_of_write`).

With one file for each definition this decides which forms are kept. The name of a file
begins with the name of a definition, and different names are different texts, but they
need not be different ways through the file system: `Pet` and `./Pet` lead to one file, and
the first form is lost (`pet_overwritten`). Names lead to one file exactly when they have
the same steps. Names without a slash never have, whatever they are joined with, because
the part of the file name that they begin is a step or a point, and is never empty
(`steps_append_inj`).
-/
import SchemaForms.Proofs.Generator.Loading
import SchemaForms.Proofs.Generator.Output
import SchemaForms.Proofs.Naming.Constants
import SchemaForms.Proofs.Spec.Names

set_option autoImplicit false

namespace SchemaForms

open FileSystem

/-! ## Names that lead to the same file -/

/-- The steps from the output directory to a file. -/
def SourceFile.way (file : SourceFile) : List String :=
  (Path.ofText file.name).steps

/-- **Two files have the same place exactly when they have the same way.** -/
theorem place_eq_iff {directory : Path} {file other : SourceFile}
    (hfile : leadsOut file.name = false) (hother : leadsOut other.name = false)
    (workingDirectory : Location) :
    (directory.join (Path.ofText file.name)).place workingDirectory =
        (directory.join (Path.ofText other.name)).place workingDirectory ↔
      file.way = other.way := by
  rw [place_outputPath hfile, place_outputPath hother]
  exact List.append_right_inj _

/-- Text without separators goes to the first part. -/
theorem Text.split_append {separator : Char} {s : List Char} (h : separator ∉ s)
    (t : List Char) : ∃ part parts, split separator t = part :: parts ∧
      split separator (s ++ t) = (s ++ part) :: parts := by
  induction s with
  | nil =>
    obtain ⟨part, parts, hsplit⟩ := List.exists_cons_of_ne_nil (split_ne_nil separator t)
    exact ⟨part, parts, hsplit, hsplit⟩
  | cons c rest ih =>
    rw [List.mem_cons, not_or] at h
    obtain ⟨part, parts, hsplit, hrest⟩ := ih h.2
    refine ⟨part, parts, hsplit, ?_⟩
    rw [List.cons_append, split, if_neg (Ne.symm h.1), hrest]
    rfl

/-- A name that does not lead out has no empty first part: with others behind it, it would
begin with a slash, and alone it names nothing. -/
theorem parts_ne_of_good {name : String} (h : leadsOut name = false) (others : List String) :
    (Path.ofText name).parts ≠ "" :: others := by
  intro hparts
  obtain ⟨hrelative, hne, -⟩ := staysBelow_of_good h
  cases others with
  | nil =>
    apply hne
    rw [Path.steps, hparts]
    rfl
  | cons second others =>
    rw [Path.isAbsolute_iff.2 ⟨second, others, hparts⟩] at hrelative
    cases hrelative

/-- **Names without a slash do not meet**, whatever they are continued with. -/
theorem steps_append_inj {base name other : String} (hname : '/' ∉ name.toList)
    (hother : '/' ∉ other.toList) (hgood : leadsOut (name ++ base) = false)
    (hgoodOther : leadsOut (other ++ base) = false)
    (h : (Path.ofText (name ++ base)).steps = (Path.ofText (other ++ base)).steps) :
    name = other := by
  obtain ⟨part, parts, hsplit, hfirst⟩ := Text.split_append hname base.toList
  obtain ⟨part', parts', hsplit', hsecond⟩ := Text.split_append hother base.toList
  obtain ⟨rfl, rfl⟩ := List.cons.inj (hsplit.symm.trans hsplit')
  have hparts : (Path.ofText (name ++ base)).parts =
      String.ofList (name.toList ++ part) :: parts.map String.ofList := by
    rw [Path.ofText, String.toList_append, hfirst, List.map_cons]
  have hpartsOther : (Path.ofText (other ++ base)).parts =
      String.ofList (other.toList ++ part) :: parts.map String.ofList := by
    rw [Path.ofText, String.toList_append, hsecond, List.map_cons]
  -- The first parts tell the names apart.
  have hinj : String.ofList (name.toList ++ part) = String.ofList (other.toList ++ part) →
      name = other := by
    intro heq
    apply String.toList_injective
    exact List.append_cancel_right (String.ofList_injective heq)
  rw [Path.steps, Path.steps, hparts, hpartsOther, List.filter_cons, List.filter_cons] at h
  by_cases hcounts : Path.counts (String.ofList (name.toList ++ part)) = true
  · by_cases hcountsOther : Path.counts (String.ofList (other.toList ++ part)) = true
    · rw [if_pos hcounts, if_pos hcountsOther] at h
      exact hinj (List.cons.inj h).1
    · rw [if_pos hcounts, if_neg hcountsOther] at h
      exact absurd h (List.cons_ne_self _ _)
  · by_cases hcountsOther : Path.counts (String.ofList (other.toList ++ part)) = true
    · rw [if_neg hcounts, if_pos hcountsOther] at h
      exact absurd h.symm (List.cons_ne_self _ _)
    · -- Neither counts, and neither is empty, so both are a point.
      rw [Bool.not_eq_true, Path.counts_eq_false_iff] at hcounts hcountsOther
      rcases hcounts with hempty | hpoint
      · exact absurd (hempty ▸ hparts) (parts_ne_of_good hgood _)
      · rcases hcountsOther with hempty | hpointOther
        · exact absurd (hempty ▸ hpartsOther) (parts_ne_of_good hgoodOther _)
        · exact hinj (hpoint.trans hpointOther.symm)

/-- So different names without slashes lead different ways. -/
theorem nodup_steps_append {base : String} {names : List String} (hdistinct : names.Nodup)
    (hslash : ∀ name ∈ names, '/' ∉ name.toList)
    (hgood : ∀ name ∈ names, leadsOut (name ++ base) = false) :
    (names.map fun name => (Path.ofText (name ++ base)).steps).Nodup := by
  refine List.Nodup.map_on (fun name hname other hother heq => ?_) hdistinct
  exact steps_append_inj (hslash name hname) (hslash other hother) (hgood name hname)
    (hgood other hother) heq

/-! ## What is written last -/

section

variable {fs after : FileSystem} {paths : List Path}

/-- Writing all files is a row of changes, in which files are written at their places only. -/
theorem changes_of_writeAll {files : List (Path × String)}
    (h : (Generator.writeAll files : StateM FileSystem _).run fs = (.ok paths, after)) :
    Changes (fun _ => True)
      (fun location => ∃ file ∈ files, location = file.1.place fs.workingDirectory) fs after :=
  (confines_writeAll fun file hfile => ⟨⟨file, hfile, rfl⟩, fun _ _ => trivial⟩).changes h

/-- Making the directory of a file leaves the working directory as it is. -/
theorem workingDirectory_of_ensured {directory : Path} {result : Except OsError Unit}
    (h : (Files.ensureDirectories directory : StateM FileSystem _).run fs = (result, after)) :
    after.workingDirectory = fs.workingDirectory :=
  Changes.workingDirectory <|
    Confines.changes (confines_ensureDirectories (fun _ _ => trivial) :
      Confines (fun _ => True) (fun _ => False) fs.workingDirectory _) h

/-- After the run all paths can be followed. -/
theorem reaches_of_writeAll {files : List (Path × String)}
    (h : (Generator.writeAll files : StateM FileSystem _).run fs = (.ok paths, after)) :
    ∀ file ∈ files, after.Reaches file.1 := by
  induction files generalizing fs paths with
  | nil => exact fun _ hfile => absurd hfile List.not_mem_nil
  | cons file files ih =>
    obtain ⟨path, content⟩ := file
    obtain ⟨before, first, others, -, hwritten, hrest, -⟩ := writeAll_cons_eq_ok h
    obtain ⟨hreaches, hfree, rfl⟩ := FileSystem.write_eq_ok hwritten
    intro file hfile
    rcases List.mem_cons.1 hfile with rfl | hfile
    · -- The path was followed when the file was written, and nothing has closed it since.
      have hwrite : Changes (fun _ => True) (fun _ => True) before _ :=
        .single (.write trivial content.toUTF8 hfree)
      exact (hreaches.of_changes hwrite).of_changes (changes_of_writeAll hrest)
    · exact ih hrest file hfile

/-- **What is at a place is what was written there last.** -/
theorem entry?_of_writeAll {earlier later : List (Path × String)} {path : Path}
    {content : String}
    (h : (Generator.writeAll (earlier ++ (path, content) :: later) : StateM FileSystem _).run fs =
      (.ok paths, after))
    (hlast : ∀ other ∈ later,
      other.1.place fs.workingDirectory ≠ path.place fs.workingDirectory) :
    after.entry? (path.place fs.workingDirectory) = some (.file content.toUTF8) := by
  -- Induction on the files before the one in question. Nothing is asked of them, since what
  -- they do at the place is undone by the write that counts.
  induction earlier generalizing fs paths with
  | nil =>
    obtain ⟨before, first, others, hensured, hwritten, hrest, -⟩ := writeAll_cons_eq_ok h
    have hsame := workingDirectory_of_ensured hensured
    obtain ⟨-, hfree, rfl⟩ := FileSystem.write_eq_ok hwritten
    rw [← hsame] at hlast ⊢
    refine (changes_of_writeAll hrest).file ?_ (entry?_put_self (ne_nil_of_free hfree) _)
    rintro ⟨other, hother, heq⟩
    exact hlast other hother heq.symm
  | cons file earlier ih =>
    obtain ⟨before, first, others, hensured, hwritten, hrest, -⟩ := writeAll_cons_eq_ok h
    obtain ⟨-, -, hfirst⟩ := FileSystem.write_eq_ok hwritten
    have hsame : first.workingDirectory = fs.workingDirectory := by
      rw [hfirst, workingDirectory_put]
      exact workingDirectory_of_ensured hensured
    rw [← hsame] at hlast ⊢
    exact ih hrest hlast

variable {generator : Generator}

/-- **After a run the places of the files are apart exactly when the ways to them are.** -/
theorem nodup_places_iff {files : List SourceFile}
    (h : (generator.write files : StateM FileSystem _).run fs = (.ok paths, after))
    (workingDirectory : Location) :
    (paths.map (·.place workingDirectory)).Nodup ↔ (files.map SourceFile.way).Nodup := by
  -- All places begin with that of the output directory and go on with the way.
  have hplaces : paths.map (·.place workingDirectory) =
      (files.map SourceFile.way).map
        (generator.settings.directory.place workingDirectory ++ ·) := by
    rw [paths_of_write h, List.map_map, List.map_map]
    refine List.map_congr_left fun file hfile => ?_
    exact place_outputPath (good_of_find? (write_eq_ok h).1 file hfile) workingDirectory
  rw [hplaces]
  exact List.nodup_map_iff fun _ _ heq => List.append_cancel_left heq

/-- **A path reads as the last file with its way.** The files are those of other things in a
list, such as forms, each of which has one. -/
theorem read_of_write {α : Type} {file : α → SourceFile} {earlier later : List α} {last a : α}
    (h : (generator.write ((earlier ++ last :: later).map file) : StateM FileSystem _).run fs =
      (.ok paths, after))
    (hlast : ∀ other ∈ later, (file other).way ≠ (file last).way)
    (ha : a ∈ earlier ++ last :: later) (hway : (file a).way = (file last).way) :
    after.read (generator.settings.directory.join (Path.ofText (file a).name)) =
      .ok (file last).content.toUTF8 := by
  obtain ⟨hfind, before, hensured, hall⟩ := write_eq_ok h
  have hgood : ∀ other ∈ earlier ++ last :: later, leadsOut (file other).name = false :=
    fun other hother => good_of_find? hfind _ (List.mem_map_of_mem hother)
  have hgoodLast := hgood last (List.mem_append_right _ List.mem_cons_self)
  have hsame : after.workingDirectory = before.workingDirectory :=
    (changes_of_writeAll hall).workingDirectory
  refine read_eq_ok_iff.2 ⟨?_, ?_⟩
  · have hmem := List.mem_map_of_mem (f := file) ha
    exact reaches_of_writeAll hall _ (List.mem_map.2 ⟨file a, hmem, rfl⟩)
  · rw [hsame, (place_eq_iff (hgood a ha) hgoodLast _).2 hway]
    rw [outputs, List.map_map, List.map_append, List.map_cons] at hall
    refine entry?_of_writeAll hall fun output houtput => ?_
    obtain ⟨other, hother, rfl⟩ := List.mem_map.1 houtput
    have hgoodOther := hgood other (List.mem_append_right _ (List.mem_cons_of_mem _ hother))
    exact fun heq => hlast other hother ((place_eq_iff hgoodOther hgoodLast _).1 heq)

end

/-! ## Going the whole way -/

section

variable {generator : Generator} {web : Web} {fs after : FileSystem}

/-- A run that succeeds, taken apart: the document was loaded, its forms were made, and
the files for them were written. -/
theorem compile_eq_ok {summary : Logged Summary}
    (h : (generator.compile web.fetch : StateM FileSystem _).run fs = (.ok summary, after)) :
    ∃ document forms,
      generator.loaded web fs = .ok document ∧
      document.value.forms generator.rules = .ok forms ∧
      (generator.write (generator.filesFor document.value forms.value) :
        StateM FileSystem _).run fs = (.ok summary.value.files, after) ∧
      summary.value.forms = forms.value.length ∧
      summary.value.controls = Form.totalControls forms.value := by
  rw [Generator.compile, run_bind_of_eq (load_run generator web fs)] at h
  cases hload : generator.loaded web fs with
  | error e =>
    rw [hload] at h
    cases h
  | ok document =>
    rw [hload] at h
    dsimp only at h
    cases hforms : generator.forms document.value with
    | error e =>
      rw [hforms] at h
      cases h
    | ok forms =>
      rw [hforms] at h
      obtain ⟨written, last, hwrite, hend⟩ := run_bind_eq h
      cases written with
      | error e => cases hend
      | ok files =>
        obtain ⟨hsummary, rfl⟩ := Prod.mk.inj hend
        obtain rfl := Except.ok.inj hsummary
        exact ⟨document, forms, rfl, hforms, hwrite, rfl, rfl⟩

/-- And put together again. -/
theorem compile_of_write {document : Logged Document} {forms : Logged (List Form)}
    {paths : List Path}
    (hload : generator.loaded web fs = .ok document)
    (hforms : document.value.forms generator.rules = .ok forms)
    (hwrite : (generator.write (generator.filesFor document.value forms.value) :
      StateM FileSystem _).run fs = (.ok paths, after)) :
    ∃ summary : Logged Summary, summary.value.files = paths ∧
      (generator.compile web.fetch : StateM FileSystem _).run fs = (.ok summary, after) := by
  have hmade : generator.forms document.value = .ok forms := hforms
  rw [Generator.compile, run_bind_of_eq (load_run generator web fs), hload]
  dsimp only
  rw [hmade]
  dsimp only
  rw [run_bind_of_eq hwrite]
  exact ⟨_, rfl, rfl⟩

/-- The file of a form that has one to itself. -/
def Renderer.ownFile (renderer : Renderer) (baseName : String) (form : Form) : SourceFile :=
  { name := form.definition ++ baseName, content := renderer.file [form] }

/-- What a run that gives each form its own file leaves behind. -/
structure OwnFiles (directory : Path) (file : Form → SourceFile) (forms : List Form)
    (paths : List Path) (workingDirectory : Location) (after : FileSystem) : Prop where
  inOrder : paths = forms.map fun form => directory.join (Path.ofText (file form).name)
  /-- The files are different exactly when the ways to them are. -/
  apart_iff : (paths.map (·.place workingDirectory)).Nodup ↔
    (forms.map fun form => (file form).way).Nodup
  /-- Every path reads as the file of the last form with the same way. -/
  reads : ∀ earlier last later, forms = earlier ++ last :: later →
    (∀ other ∈ later, (file other).way ≠ (file last).way) →
    ∀ form ∈ forms, (file form).way = (file last).way →
      after.read (directory.join (Path.ofText (file form).name)) =
        .ok (file last).content.toUTF8
  /-- If the ways are different, that is the form itself. -/
  readsOwn : (forms.map fun form => (file form).way).Nodup → ∀ form ∈ forms,
    after.read (directory.join (Path.ofText (file form).name)) = .ok (file form).content.toUTF8
  /-- And they are different if no definition has a slash in its name. -/
  apart : (∀ form ∈ forms, '/' ∉ form.definition.toList) →
    (forms.map fun form => (file form).way).Nodup

theorem OwnFiles.of_write {baseName : String} {forms : List Form} {paths : List Path}
    (hdistinct : (forms.map Form.definition).Nodup)
    (h : (generator.write (forms.map (generator.renderer.ownFile baseName)) :
      StateM FileSystem _).run fs = (.ok paths, after)) :
    OwnFiles generator.settings.directory (generator.renderer.ownFile baseName) forms paths
      fs.workingDirectory after := by
  have hgood : ∀ name ∈ forms.map Form.definition, leadsOut (name ++ baseName) = false := by
    intro name hname
    obtain ⟨form, hform, rfl⟩ := List.mem_map.1 hname
    exact good_of_find? (write_eq_ok h).1 (generator.renderer.ownFile baseName form)
      (List.mem_map_of_mem hform)
  constructor
  case inOrder =>
    rw [paths_of_write h, List.map_map]
    rfl
  case apart_iff =>
    rw [nodup_places_iff h, List.map_map]
    rfl
  case reads =>
    rintro earlier last later rfl hlast form hform hway
    exact read_of_write h hlast hform hway
  case readsOwn =>
    intro hways form hform
    -- Every form is the last one with its way.
    obtain ⟨earlier, later, rfl⟩ := List.append_of_mem hform
    rw [List.map_append, List.map_cons] at hways
    have hlater := (List.nodup_cons.1 hways.of_append_right).1
    refine read_of_write h (fun other hother heq => ?_) hform rfl
    exact hlater (List.mem_map.2 ⟨other, hother, heq⟩)
  case apart =>
    intro hslash
    have hnodup := nodup_steps_append hdistinct (List.forall_mem_map.2 hslash) hgood
    rw [List.map_map] at hnodup
    exact hnodup

/-- **With one file for each definition, the last form with a way is the one that is kept.**
When the whole run succeeds, there is one path for each definition, in order. The paths are
those of different files exactly when the names lead different ways, and then every file is
the rendering of its form. Definitions whose names have no slashes are never lost. -/
theorem compile_perDefinition (hsettings : generator.settings.perDefinition = true)
    {summary : Logged Summary}
    (h : (generator.compile web.fetch : StateM FileSystem _).run fs = (.ok summary, after)) :
    ∃ document forms baseName,
      (generator.load web.fetch : StateM FileSystem _).run fs = (.ok document, fs) ∧
      document.value.forms generator.rules = .ok forms ∧
      generator.layout document.value = .perDefinition baseName ∧
      document.value.definitionNames = .ok (forms.value.map Form.definition) ∧
      OwnFiles generator.settings.directory (generator.renderer.ownFile baseName) forms.value
        summary.value.files fs.workingDirectory after := by
  obtain ⟨document, forms, hload, hforms, hwrite, -, -⟩ := compile_eq_ok h
  obtain ⟨hnames, -⟩ := forms_eq_ok hforms
  obtain ⟨text, hparse⟩ := parse_of_loaded hload
  have hrun : (generator.load web.fetch : StateM FileSystem _).run fs = (.ok document, fs) := by
    rw [load_run, hload]
  obtain ⟨baseName, hlayout⟩ :
      ∃ baseName, generator.layout document.value = .perDefinition baseName :=
    ⟨_, if_pos hsettings⟩
  rw [Generator.filesFor, hlayout] at hwrite
  exact ⟨document, forms, baseName, hrun, hforms, hlayout, hnames,
    .of_write (Spec.definitionNames_nodup hparse hnames) hwrite⟩

end

/-- A specification with two definitions for one file. -/
def twinText : String :=
  "\x7b\"definitions\":\x7b\"./Pet\":\x7b\"properties\":\x7b\"a\":\x7b\x7d\x7d\x7d," ++
    "\"Pet\":\x7b\x7d\x7d\x7d"

def twinValue : Json :=
  .object [("definitions", .object
    [("./Pet", .object [("properties", .object [("a", .object [])])]), ("Pet", .object [])])]

def twinDocument : Document :=
  { definitions := some [("./Pet", { properties := [("a", {})] }), ("Pet", {})] }

def twinFiles : FileSystem :=
  { entries := [(["a.json"], .file twinText.toUTF8)], workingDirectory := [] }

def twinGenerator : Generator :=
  { settings := { input := "a.json", directory := Path.ofText "out", perDefinition := true } }

theorem parse_twins {location : String} (h : Format.detect location = .json) :
    Spec.parse location twinText =
      .ok { value := twinDocument, events := [.specParsed location 2] } := by
  have hread : Format.json.read? twinText = some twinValue := rfl
  have hfirst : Json.Expands twinValue
      (.object [("properties", .object [("a", .object [])])])
      (.object [("properties", .object [("a", .object [])])]) :=
    .object rfl (.cons (.object rfl (.cons (.object rfl .nil) .nil)) .nil)
  have hroot : Json.Expands twinValue twinValue twinValue :=
    .object rfl (.cons (.object rfl (.cons hfirst (.cons (.object rfl .nil) .nil))) .nil)
  have hinline : twinValue.inlineReferences = .ok twinValue := hroot.inline_nil _
  have hdocument : Document.ofJson twinValue = .ok twinDocument := rfl
  simp only [Spec.parse, h, hread, Spec.ofValue, hinline, hdocument]
  rfl

theorem loaded_twins (web : Web) : twinGenerator.loaded web twinFiles =
    .ok { value := twinDocument, events := [.specParsed "a.json" 2] } := by
  have hlocal : isUrl twinGenerator.settings.input = false := rfl
  have hread : twinFiles.read (Path.ofText twinGenerator.settings.input) = .ok twinText.toUTF8 :=
    rfl
  rw [loaded_of_textAt (textAt_of_read hlocal hread web)]
  exact parse_twins rfl

/-- The form of the first definition. -/
def dottedForm : Form :=
  { definition := "./Pet", identifier := "petForm", fields := [.control "a" none []] }

/-- The form of the second one. -/
def plainForm : Form :=
  { definition := "Pet", identifier := "petForm", fields := [] }

/-- The run succeeds and returns two paths, and there the second form is read. -/
theorem compile_twins (web : Web) : ∃ (summary : Logged Summary) (after : FileSystem),
    (twinGenerator.compile web.fetch : StateM FileSystem _).run twinFiles = (.ok summary, after) ∧
      summary.value.files = [Path.ofText "out/./Petforms.ts", Path.ofText "out/Petforms.ts"] ∧
      ∀ path ∈ summary.value.files,
        after.read path = .ok (Angular.renderer.file [plainForm]).toUTF8 := by
  obtain ⟨summary, hsummary, hcompile⟩ := compile_of_write (loaded_twins web) rfl rfl
  have hfiles : summary.value.files =
      [Path.ofText "out/./Petforms.ts", Path.ofText "out/Petforms.ts"] :=
    hsummary.trans (by decide)
  refine ⟨summary, _, hcompile, hfiles, fun path hpath => ?_⟩
  rw [hfiles, List.mem_cons, List.mem_singleton] at hpath
  rcases hpath with rfl | rfl <;> rfl

/-- A web with nothing in it. -/
def emptyWeb : Web :=
  fun _ => .error .unreachable

theorem compile_perDefinition_twins : ∃ (summary : Logged Summary) (after : FileSystem),
    twinGenerator.settings.perDefinition = true ∧
      (twinGenerator.compile emptyWeb.fetch : StateM FileSystem _).run twinFiles =
        (.ok summary, after) ∧
      OwnFiles (Path.ofText "out") (Angular.renderer.ownFile "forms.ts") [dottedForm, plainForm]
        summary.value.files [] after := by
  obtain ⟨summary, after, hrun, -, -⟩ := compile_twins emptyWeb
  obtain ⟨document, forms, baseName, hload, hforms, hlayout, -, hown⟩ :=
    compile_perDefinition (show twinGenerator.settings.perDefinition = true from rfl) hrun
  rw [load_run, loaded_twins] at hload
  obtain rfl := Except.ok.inj (Prod.mk.inj hload).1
  obtain rfl := Except.ok.inj hforms
  obtain rfl : "forms.ts" = baseName := Layout.perDefinition.inj hlayout
  exact ⟨summary, after, rfl, hrun, hown⟩

/-- A run with one file for each definition in which a form is lost. -/
theorem pet_overwritten : ∃ (generator : Generator) (web : Web) (fs after : FileSystem)
    (summary : Logged Summary), generator.settings.perDefinition = true ∧
      (generator.compile web.fetch : StateM FileSystem _).run fs = (.ok summary, after) ∧
      summary.value.files = [Path.ofText "out/./Petforms.ts", Path.ofText "out/Petforms.ts"] ∧
      ¬(summary.value.files.map (·.place fs.workingDirectory)).Nodup ∧
      after.read (Path.ofText "out/./Petforms.ts") ≠
        .ok (Angular.renderer.file [dottedForm]).toUTF8 := by
  obtain ⟨summary, after, hrun, hfiles, hreads⟩ := compile_twins emptyWeb
  rw [hfiles] at hreads
  refine ⟨twinGenerator, emptyWeb, twinFiles, after, summary, rfl, hrun, hfiles, ?_,
    fun heq => ?_⟩
  · rw [hfiles]
    decide
  · have hsame := Except.ok.inj ((hreads _ List.mem_cons_self).symm.trans heq)
    have hne : Angular.renderer.file [plainForm] ≠ Angular.renderer.file [dottedForm] := by decide
    exact hne (String.toByteArray_inj.1 hsame)

end SchemaForms
