/-
What changes with the layout, and what does not. Forms go into one file together or into a
file each, and each file begins with the header of the renderer. Behind the header stands
the text of the forms, one after the other with a blank line before each, and that is all
there is to a file: so the text behind the header of the one file is the text behind the
headers of the many, put together in order (`layouts_carry_same_code`).

Nothing is assumed of the renderer. Its header may be empty, and the text of a form may
hold the header; so that a file has its header in front is not a matter of searching for
it, and `code?` takes off as much as the header is long and no more. That a layout puts the
header nowhere else is said by exchanging it: with another header, the same stands behind.
-/
import Mathlib.Data.List.Infix
import SchemaForms.Render.Basic

set_option autoImplicit false

namespace SchemaForms

namespace Renderer

/-! ## The text of forms in a row -/

@[simp] theorem body_nil (renderer : Renderer) : renderer.body [] = "" := rfl

/-- The first form is written first, behind a blank line. -/
@[simp] theorem body_cons (renderer : Renderer) (form : Form) (forms : List Form) :
    renderer.body (form :: forms) = "\n" ++ renderer.form form ++ renderer.body forms := by
  unfold body
  rw [List.map_cons, String.join_cons]

/-- **Forms are written one by one.** What is written for a form depends neither on those
before it nor on those behind it, the blank line that keeps it apart from them included. -/
theorem body_eq_join (renderer : Renderer) (forms : List Form) :
    renderer.body forms = String.join (forms.map fun form => renderer.body [form]) := by
  induction forms with
  | nil => rfl
  | cons form forms ih =>
    rw [List.map_cons, String.join_cons, ← ih]
    simp

/-! ## Headers -/

/-- What stands behind the header of a file; none if the file does not begin with it. -/
def code? (renderer : Renderer) (file : SourceFile) : Option String :=
  (renderer.header.toList.isPrefixOf? file.content.toList).map String.ofList

theorem code?_eq_some_iff {renderer : Renderer} {file : SourceFile} {code : String} :
    renderer.code? file = some code ↔ file.content = renderer.header ++ code := by
  unfold code?
  rw [Option.map_eq_some_iff]
  constructor
  · rintro ⟨behind, hbehind, rfl⟩
    have hcontent := List.isPrefixOf?_eq_some_iff_append_eq.1 hbehind
    rw [← String.toList_inj, String.toList_append, String.toList_ofList, hcontent]
  · intro hcontent
    refine ⟨code.toList, ?_, String.ofList_toList⟩
    apply List.isPrefixOf?_eq_some_iff_append_eq.2
    rw [hcontent, String.toList_append]

/-- A file has its header, and taking that off leaves the forms. -/
theorem code?_file (renderer : Renderer) (name : String) (forms : List Form) :
    renderer.code? { name, content := renderer.file forms } = some (renderer.body forms) :=
  code?_eq_some_iff.2 rfl

end Renderer

/-! ## The two layouts -/

section

variable (renderer : Renderer) (forms : List Form)

/-- What stands behind the headers of the files that hold a form each. -/
theorem code?_perDefinition (baseName : String) :
    ((Layout.perDefinition baseName).files renderer forms).map renderer.code? =
      forms.map fun form => some (renderer.body [form]) := by
  unfold Layout.files
  rw [List.map_map]
  apply List.map_congr_left
  intro form _
  exact renderer.code?_file _ _

/-- What stands behind the header of the file that holds all forms. -/
theorem code?_single (fileName : String) :
    ((Layout.single fileName).files renderer forms).map renderer.code? =
      [some (renderer.body forms)] := by
  unfold Layout.files
  rw [List.map_singleton, renderer.code?_file]

/-- **A layout puts the header in front of its files and nowhere else**: the same stands
behind another header. -/
theorem code?_of_header (layout : Layout) (header : String) :
    (layout.files { renderer with header } forms).map ({ renderer with header } : Renderer).code? =
      (layout.files renderer forms).map renderer.code? := by
  cases layout with
  | single fileName =>
    rw [code?_single, code?_single]
    rfl
  | perDefinition baseName =>
    rw [code?_perDefinition, code?_perDefinition]
    rfl

/-- Whatever the layout, a file is the file of some of the forms. -/
theorem exists_file_of_mem {layout : Layout} {file : SourceFile}
    (h : file ∈ layout.files renderer forms) :
    ∃ written, written.Sublist forms ∧ file.content = renderer.file written := by
  cases layout with
  | single fileName =>
    obtain rfl := List.mem_singleton.1 h
    exact ⟨forms, List.Sublist.refl forms, rfl⟩
  | perDefinition baseName =>
    obtain ⟨form, hform, rfl⟩ := List.mem_map.1 h
    exact ⟨[form], List.singleton_sublist.2 hform, rfl⟩

end

/-- **The two layouts carry the same code.** With a file for each form there is one for each
in order, named for its definition and then the base name, and behind its header stand a
blank line and the text of this form. The one file of the other layout is the header, once,
and then what stands behind the headers of those files, in order. Every file of a layout
begins with the header; and exchanging the header for another leaves what is behind it as
it was, so the header is nowhere else but where a form has it in its own text. -/
theorem layouts_carry_same_code (renderer : Renderer) (forms : List Form)
    (fileName baseName : String) :
    let together := (Layout.single fileName).files renderer forms
    let apart := (Layout.perDefinition baseName).files renderer forms
    apart.map SourceFile.name = forms.map (fun form => form.definition ++ baseName) ∧
      apart.map renderer.code? = forms.map (fun form => some ("\n" ++ renderer.form form)) ∧
      together = [{ name := fileName
                    content := renderer.header ++
                      String.join (apart.filterMap renderer.code?) }] ∧
      ∀ layout : Layout,
        (∀ file ∈ layout.files renderer forms,
          renderer.header.toList <+: file.content.toList) ∧
        ∀ header,
          (layout.files { renderer with header } forms).map
              ({ renderer with header } : Renderer).code? =
            (layout.files renderer forms).map renderer.code? := by
  intro together apart
  have hcodes : apart.map renderer.code? = forms.map fun form => some (renderer.body [form]) :=
    code?_perDefinition renderer forms baseName
  refine ⟨?_, ?_, ?_, fun layout => ⟨?_, code?_of_header renderer forms layout⟩⟩
  · -- The names belong to the layout alone.
    exact List.map_map
  · rw [hcodes]
    simp
  · -- No file is without its header, so none is passed over.
    have hjoined : apart.filterMap renderer.code? = forms.map fun form => renderer.body [form] := by
      have hreduced : apart.filterMap renderer.code? = (apart.map renderer.code?).filterMap id := by
        rw [List.filterMap_map, Function.id_comp]
      rw [hreduced, hcodes, List.filterMap_map]
      exact congrFun List.filterMap_eq_map _
    rw [hjoined, ← renderer.body_eq_join]
    rfl
  · intro file hfile
    obtain ⟨written, -, hcontent⟩ := exists_file_of_mem renderer forms hfile
    rw [hcontent, Renderer.file, String.toList_append]
    exact List.prefix_append _ _

end SchemaForms
