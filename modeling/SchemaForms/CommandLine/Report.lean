/-
What the command line prints. Lines begin with a mark, results of a check stand in a
box, and a bar shows the size of each form relative to the largest.
-/
import SchemaForms.Generator

set_option autoImplicit false

namespace SchemaForms.Report

/-! ## Lines -/

/-- A line with a mark in front of it. -/
def line (mark text : String) : String :=
  "  " ++ mark ++ " " ++ text ++ "\n"

def success (text : String) : String := line "◉" text

def error (text : String) : String := line "◆" text

def info (text : String) : String := line "◇" text

/-- A file that was written. -/
def file (path : Path) : String := line "─▸" path.text

/-- How long something took, in milliseconds. -/
def timing (label elapsed : String) : String :=
  info (label ++ " in " ++ elapsed ++ "ms")

/-- A text repeated. -/
def times (n : Nat) (text : String) : String :=
  String.join (List.replicate n text)

/-! ## Boxes -/

/-- How wide a box is between its corners. -/
def boxWidth : Nat := 53

/-- The upper side of a box, with a title that is short enough for it. -/
def boxTop (title : String) : String :=
  "  ╭─ " ++ title ++ " " ++ times (boxWidth - title.length - 4) "─" ++ "╮\n"

/-- An empty line of a box. -/
def boxLine : String :=
  line "│" (times boxWidth " " ++ "│")

/-- The lower side of a box. -/
def boxBottom : String :=
  "  ╰" ++ times boxWidth "─" ++ "╯\n"

/-! ## Forms -/

/-- How many parts a bar has. -/
def barLength : Nat := 8

/-- A bar that is filled as a value is to the largest one. -/
def bar (value largest : Nat) : String :=
  let filled := min (value * barLength / max largest 1) barLength
  times filled "▰" ++ times (barLength - filled) "▱"

/-- A text filled up with blanks at its end. -/
def padEnd (width : Nat) (text : String) : String :=
  text ++ times (width - text.length) " "

/-- A text filled up with blanks in front of it. -/
def padFront (width : Nat) (text : String) : String :=
  times (width - text.length) " " ++ text

/-- A number of controls in words. -/
def controls (count : Nat) : String :=
  padFront 3 (toString count) ++ (if count = 1 then " control" else " controls")

/-- A form, its size, and the size relative to the largest form. -/
def form (largest : Nat) (form : Form) : String :=
  line "▸" ("  " ++ padEnd 28 form.identifier ++ " " ++ controls form.controlCount ++ "   " ++
    bar form.controlCount largest)

/-- The size of the largest form. -/
def largest (forms : List Form) : Nat :=
  ((forms.map Form.controlCount).max?).getD 1

/-! ## Reports -/

/-- Files were generated. -/
def generated (summary : Summary) (elapsed : String) : String :=
  success ("Generated " ++ toString summary.forms ++ " form(s) · " ++
      toString summary.controls ++ " control(s)") ++
    String.join (summary.files.map file) ++ "\n" ++ timing "Completed" elapsed

/-- A specification was found in order. -/
def checked (forms : List Form) (rules : Registry) : String :=
  success "Looking good." ++ "\n" ++ boxTop "FORMS" ++ boxLine ++
    String.join (forms.map (form (largest forms))) ++ boxLine ++ boxBottom ++ "\n" ++
    "    " ++ toString forms.length ++ " forms · " ++ toString (Form.totalControls forms) ++
    " controls · rules: " ++ ", ".intercalate rules.names ++ "\n"

/-- Something failed. -/
def failed : String :=
  "\n" ++ error "Nope." ++ "\n"

/-- Files were generated again while watching. -/
def regenerated (summary : Summary) (elapsed : String) : String :=
  success ("Generated " ++ toString summary.forms ++ " form(s) in " ++ elapsed ++ "ms")

/-- What went wrong, for reading. -/
def diagnosis (failure : Failure) : String :=
  failure.code ++ "\n\n  × " ++ failure.message ++ "\n" ++
    ((failure.help?.map fun help => "  help: " ++ help ++ "\n").getD "")

/-- An event, for reading. -/
def event (event : Event) : String :=
  event.level.text ++ " " ++ event.message ++
    String.join (event.attributes.map fun (key, value) => " " ++ key ++ "=" ++ value) ++ "\n"

end SchemaForms.Report
