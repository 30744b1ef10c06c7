/-
The file of a title. When no name is asked for, all forms go to a file that is named for the
title of the document, and the title may be any text at all: one with slashes, with two
points, with control characters, or with nothing in it to make a name of. This module says
that none of them does any harm (`titled_file_lies_in_directory`).

There is no check that does it. The name passes the one for names that lead out, as every
name has to, but it passes for a reason: camel case leaves nothing that comes before the
digits in ASCII, so the point in front of the extension is the only one and there is no
slash. A name without a slash is one part of a path (`parts_ofText_of_isName`), and joined
to a directory it leads one step down from there, whatever the directory is.
-/
import SchemaForms.Proofs.Generator.Contents
import SchemaForms.Proofs.Naming.CamelCase

set_option autoImplicit false

namespace SchemaForms

/-! ## Names of one part -/

/-- A text without the separator is not cut. -/
theorem Text.split_eq_singleton {separator : Char} {s : List Char} (h : separator ∉ s) :
    split separator s = [s] := by
  obtain ⟨part, parts, hsplit, hwhole⟩ := Text.split_append h []
  obtain ⟨rfl, rfl⟩ := List.cons.inj hsplit
  rwa [List.append_nil] at hwhole

section

variable {name : String} (h : IsName name)

include h

theorem parts_ofText_of_isName : (Path.ofText name).parts = [name] := by
  obtain ⟨-, -, -, hslash⟩ := h
  rw [Path.ofText, Text.split_eq_singleton hslash, List.map_singleton, String.ofList_toList]

theorem steps_ofText_of_isName : (Path.ofText name).steps = [name] := by
  have hcounts : Path.counts name = true := Path.counts_iff.2 ⟨h.1, h.2.1⟩
  rw [Path.steps, parts_ofText_of_isName h, List.filter_singleton, hcounts]
  rfl

/-- The name is the only component: there is no point in front, and nothing goes up. -/
theorem components_ofText_of_isName : (Path.ofText name).components = [.name name] := by
  obtain ⟨hempty, hpoint, hup, -⟩ := id h
  have hrelative : (Path.ofText name).isAbsolute = false := by
    rw [← Bool.not_eq_true, Path.isAbsolute_iff, parts_ofText_of_isName h]
    simp
  have hcomponent : Path.component? name = some (.name name) := by
    rw [Path.component?, if_neg (not_or.2 ⟨hempty, hpoint⟩), if_neg hup]
  unfold Path.components
  rw [hrelative, parts_ofText_of_isName h]
  simp [hpoint, hcomponent]

theorem leadsOut_of_isName : leadsOut name = false := by
  have hbelow : (Path.ofText name).staysBelow = true := by
    rw [Path.staysBelow, components_ofText_of_isName h]
    rfl
  rw [staysBelow_ofText] at hbelow
  simpa using hbelow

/-- **A name of one part leads one step down from the directory.** -/
theorem outputPath_of_isName (directory : Path) :
    Generator.outputPath directory name = .ok (directory.join (Path.ofText name)) ∧
      ∀ workingDirectory, (directory.join (Path.ofText name)).place workingDirectory =
        directory.place workingDirectory ++ [name] := by
  have hgood := leadsOut_of_isName h
  constructor
  · rw [Generator.outputPath, staysBelow_ofText, hgood]
    rfl
  · intro workingDirectory
    rw [place_outputPath hgood, steps_ofText_of_isName h]

end

/-! ## The name that a title suggests -/

/-- What the file of all forms is named, the extension apart: the title in camel case if it
has a letter or a number, and the default otherwise. -/
def Document.fileStem (document : Document) : String :=
  match document.title? with
  | some title =>
    if title.toList.any Naming.isWordChar then Naming.camelCase title else Layout.defaultStem
  | none => Layout.defaultStem

/-- Titles that suggest no name are those without letters and numbers. -/
theorem Document.fileName?_getD (document : Document) (extension : String) :
    (document.fileName? extension).getD (Layout.defaultStem ++ "." ++ extension) =
      document.fileStem ++ "." ++ extension := by
  unfold fileName? fileStem
  cases document.title? with
  | none => rfl
  | some title =>
    dsimp only
    by_cases hwords : title.toList.any Naming.isWordChar = true
    · have hname : Naming.camelCase title ≠ "" := by
        rw [ne_eq, Naming.camelCase_eq_empty_iff, Bool.not_eq_false, hwords]
      rw [if_neg hname, if_pos hwords]
      rfl
    · have hname : Naming.camelCase title = "" := by
        rwa [Naming.camelCase_eq_empty_iff, ← Bool.not_eq_true]
      rw [if_pos hname, if_neg hwords]
      rfl

/-- Either way the name has something in front of the extension, and all of that is above
the slash. -/
theorem Document.fileStem_above (document : Document) :
    document.fileStem ≠ "" ∧ ∀ c ∈ document.fileStem.toList, Naming.IsAbove c := by
  have hdefault : Layout.defaultStem ≠ "" ∧
      ∀ c ∈ Layout.defaultStem.toList, Naming.IsAbove c := by
    refine ⟨by decide, ?_⟩
    have hletters : Layout.defaultStem.toList = ['f', 'o', 'r', 'm', 's'] := rfl
    simp [hletters, Naming.IsAbove]
  unfold fileStem
  split
  · split
    · rename_i title _ hwords
      refine ⟨?_, fun c hc => Naming.above_of_mem_camelCase hc⟩
      rw [ne_eq, Naming.camelCase_eq_empty_iff, hwords]
      decide
    · exact hdefault
  · exact hdefault

/-- **A stem above the slash makes a name of one part**, and the only point in it is the one
in front of the extension. -/
theorem isName_of_above {stem : String} (h : ∀ c ∈ stem.toList, Naming.IsAbove c) :
    IsName (stem ++ ".ts") ∧ '.' ∉ stem.toList ∧ '\x00' ∉ (stem ++ ".ts").toList := by
  -- Nothing up to the slash is in the stem, and the extension is known.
  have hstem : ∀ c, c.toNat ≤ '/'.toNat → c ∉ stem.toList := by
    intro c hc hmem
    have := h c hmem
    unfold Naming.IsAbove at this
    omega
  have hname : ∀ c, c.toNat ≤ '/'.toNat → c ∉ ".ts".toList → c ∉ (stem ++ ".ts").toList := by
    intro c hc hextension hmem
    rw [String.toList_append, List.mem_append] at hmem
    exact hmem.elim (hstem c hc) hextension
  -- Neither a path without text nor points alone have a letter in them.
  have hletter : 't' ∈ (stem ++ ".ts").toList := by
    rw [String.toList_append, List.mem_append]
    exact .inr (by decide)
  have hother : ∀ other : String, 't' ∉ other.toList → stem ++ ".ts" ≠ other := by
    intro other hother heq
    exact hother (heq ▸ hletter)
  refine ⟨⟨hother _ (by decide), hother _ (by decide), hother _ (by decide), ?_⟩, ?_, ?_⟩
  · exact hname '/' (by decide) (by decide)
  · exact hstem '.' (by decide)
  · exact hname '\x00' (by decide) (by decide)

/-! ## The file -/

section

variable {generator : Generator}

/-- Without a name that is asked for, the layout goes by the title. -/
theorem layout_of_title (hrenderer : generator.renderer = Angular.renderer)
    (hname : generator.settings.fileName = none)
    (hsingle : generator.settings.perDefinition = false) (document : Document) :
    generator.layout document = .single (document.fileStem ++ ".ts") := by
  unfold Generator.layout
  rw [hname, hsingle, hrenderer]
  dsimp only
  rw [Document.fileName?_getD, if_neg (by decide), String.append_assoc]
  rfl

/-- **The file of a title lies in the output directory.** Whatever the title of the document
is, and if it has none, the one file has a name of its own kind: the title in camel case if
there is a letter or a number in it and the default otherwise, never nothing, and then the
extension. The name has one point and neither a slash nor a NUL, so as a path it is a single
name; it is let through for every output directory, and the file lies right in there. -/
theorem titled_file_lies_in_directory (hrenderer : generator.renderer = Angular.renderer)
    (hname : generator.settings.fileName = none)
    (hsingle : generator.settings.perDefinition = false) (document : Document) :
    let name := document.fileStem ++ ".ts"
    let path := generator.settings.directory.join (Path.ofText name)
    generator.layout document = .single name ∧
      document.fileStem ≠ "" ∧ '.' ∉ document.fileStem.toList ∧
      '/' ∉ name.toList ∧ '\x00' ∉ name.toList ∧
      (Path.ofText name).components = [.name name] ∧
      Generator.outputPath generator.settings.directory name = .ok path ∧
      (∀ workingDirectory, path.place workingDirectory =
        generator.settings.directory.place workingDirectory ++ [name]) ∧
      ∀ forms, Generator.outputPaths generator.settings.directory
          (generator.filesFor document forms) =
        .ok [(path, Angular.renderer.file forms)] := by
  intro name path
  obtain ⟨hne, habove⟩ := document.fileStem_above
  obtain ⟨hone, hpoint, hnul⟩ := isName_of_above habove
  have hlayout := layout_of_title hrenderer hname hsingle document
  obtain ⟨hpath, hplace⟩ := outputPath_of_isName hone generator.settings.directory
  refine ⟨hlayout, hne, hpoint, hone.2.2.2, hnul, components_ofText_of_isName hone, hpath, hplace,
    ?_⟩
  intro forms
  rw [Generator.filesFor, hlayout, hrenderer, Layout.files, Generator.outputPaths, hpath]
  rfl

end

/-- A title that would go up, end the name early, and go down again. -/
def climbingDocument : Document :=
  { info := some { title := some "../..\x00/Etc Passwd" } }

def climbingGenerator : Generator :=
  { settings := { directory := Path.ofText "../out" } }

theorem titled_file_lies_in_directory_climbing :
    climbingGenerator.renderer = Angular.renderer ∧
      climbingGenerator.settings.fileName = none ∧
      climbingGenerator.settings.perDefinition = false ∧
      climbingGenerator.layout climbingDocument = .single "etcPasswd.ts" ∧
      Generator.outputPath (Path.ofText "../out") "etcPasswd.ts" =
        .ok (Path.ofText "../out/etcPasswd.ts") := by
  have hstem : climbingDocument.fileStem ++ ".ts" = "etcPasswd.ts" := by decide +kernel
  have hpath : (Path.ofText "../out").join (Path.ofText "etcPasswd.ts") =
      Path.ofText "../out/etcPasswd.ts" := by decide
  obtain ⟨hlayout, -, -, -, -, -, houtput, -, -⟩ :=
    @titled_file_lies_in_directory climbingGenerator rfl rfl rfl climbingDocument
  rw [hstem] at hlayout houtput
  exact ⟨rfl, rfl, rfl, hlayout, houtput.trans (congrArg Except.ok hpath)⟩

end SchemaForms
