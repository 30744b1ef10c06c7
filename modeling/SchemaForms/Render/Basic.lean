/-
Rendering, whatever the target. A renderer knows the text of one form, the header of a
file and the extension of file names. How forms are divided among files is the layout's
affair: all in one file, or each in its own, named for its definition. Either way a file
is the header and then its forms, each after a blank line, so that moving from one
layout to the other moves text and changes none.
-/
import SchemaForms.Form.Basic

set_option autoImplicit false

namespace SchemaForms

/-- How forms become text. -/
structure Renderer where
  /-- The extension of file names, without the point. -/
  extension : String
  /-- What every file begins with. -/
  header : String
  form : Form → String

namespace Renderer

/-- The forms of a file, each after a blank line. -/
def body (renderer : Renderer) (forms : List Form) : String :=
  String.join (forms.map fun form => "\n" ++ renderer.form form)

/-- A whole file. -/
def file (renderer : Renderer) (forms : List Form) : String :=
  renderer.header ++ renderer.body forms

end Renderer

/-- How forms are divided among files. -/
inductive Layout where
  /-- All in one file. -/
  | single (fileName : String)
  /-- Each in a file of its own, named for the definition and then the base name. -/
  | perDefinition (baseName : String)
deriving DecidableEq

/-- A file to be written. -/
structure SourceFile where
  name : String
  content : String
deriving DecidableEq

/-- The files of the forms under a layout. -/
def Layout.files (layout : Layout) (renderer : Renderer) (forms : List Form) :
    List SourceFile :=
  match layout with
  | single fileName => [{ name := fileName, content := renderer.file forms }]
  | perDefinition baseName =>
    forms.map fun form =>
      { name := form.definition ++ baseName, content := renderer.file [form] }

/-- The stem of file names when nothing suggests another. -/
def Layout.defaultStem : String := "forms"

end SchemaForms
