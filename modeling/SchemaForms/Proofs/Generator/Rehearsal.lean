/-
A check rehearses a run. Both load the specification and make its forms, and up to there
neither has changed a file (`prepare`); so what stops the one stops the other with the same
failure, and leaves the files alone (`compile_of_prepare_error`). Only then does a run differ
from a check: it goes on to write.

So a run that succeeds has the forms that a check makes, and the totals of the two reports are
those of the same forms (`prepare_of_compile`). Nothing is said the other way round, since the
operating system may refuse a file after everything has been prepared.

A check and a run each load for themselves. The files are the same for both, but a
specification on the web is fetched twice, and what is said of the two is said of two requests
that were answered alike.
-/
import SchemaForms.CommandLine.Outcome
import SchemaForms.Proofs.Generator.Contents

set_option autoImplicit false

namespace SchemaForms

open FileSystem CommandLine

/-! ## Before anything is written -/

/-- What a check and a run have in common: the document and its forms, or the failure that
ends both. -/
def Generator.prepare (generator : Generator) (web : Web) (fs : FileSystem) :
    Except Failure (Logged Document × Logged (List Form)) :=
  match generator.loaded web fs with
  | .error e => .error e
  | .ok document =>
    match document.value.forms generator.rules with
    | .error e => .error e
    | .ok forms => .ok (document, forms)

section

variable {generator : Generator} {web : Web} {fs : FileSystem}

theorem prepare_congr {other : Web} (halike : AnswerAlike generator.settings.input web other) :
    generator.prepare web fs = generator.prepare other fs := by
  rw [Generator.prepare, Generator.prepare, loaded_congr halike]

theorem prepare_of_loaded_error {e : Failure} (h : generator.loaded web fs = .error e) :
    generator.prepare web fs = .error e := by
  rw [Generator.prepare, h]

theorem prepare_of_loaded_ok {document : Logged Document}
    {forms : Except Failure (Logged (List Form))} (h : generator.loaded web fs = .ok document)
    (hforms : document.value.forms generator.rules = forms) :
    generator.prepare web fs = forms.map (document, ·) := by
  rw [Generator.prepare, h]
  dsimp only
  rw [hforms]
  cases forms with
  | error e => rfl
  | ok forms => rfl

/-- **A check gives the forms of the preparation**, with the events of loading in front, and
changes nothing. -/
theorem check_run (generator : Generator) (web : Web) (fs : FileSystem) :
    (generator.check web.fetch : StateM FileSystem _).run fs =
      ((generator.prepare web fs).map fun prepared => prepared.1 >>= fun _ => prepared.2, fs) := by
  rw [Generator.check, run_bind_of_eq (load_run generator web fs), Generator.prepare]
  cases generator.loaded web fs with
  | error e => rfl
  | ok document =>
    dsimp only [Generator.forms]
    cases document.value.forms generator.rules with
    | error e => rfl
    | ok forms => rfl

/-- **A failure before writing ends a run**, and no file is touched. -/
theorem compile_of_prepare_error {e : Failure} (h : generator.prepare web fs = .error e) :
    (generator.compile web.fetch : StateM FileSystem _).run fs = (.error e, fs) := by
  rw [Generator.compile, run_bind_of_eq (load_run generator web fs)]
  rw [Generator.prepare] at h
  cases hloaded : generator.loaded web fs with
  | error e' =>
    rw [hloaded] at h
    obtain rfl := Except.error.inj h
    rfl
  | ok document =>
    rw [hloaded] at h
    dsimp only [Generator.forms] at h ⊢
    cases hforms : document.value.forms generator.rules with
    | error e' =>
      rw [hforms] at h
      obtain rfl := Except.error.inj h
      rfl
    | ok forms =>
      rw [hforms] at h
      cases h

/-- A run that succeeds was prepared, and sums up the forms of the preparation. -/
theorem prepare_of_compile {summary : Logged Summary} {after : FileSystem}
    (h : (generator.compile web.fetch : StateM FileSystem _).run fs = (.ok summary, after)) :
    ∃ document forms, generator.prepare web fs = .ok (document, forms) ∧
      summary.value.forms = forms.value.length ∧
      summary.value.controls = Form.totalControls forms.value := by
  obtain ⟨document, forms, hloaded, hforms, -, hcount, hcontrols⟩ := compile_eq_ok h
  exact ⟨document, forms, prepare_of_loaded_ok hloaded hforms, hcount, hcontrols⟩

/-- A check before a run that succeeds, when both requests are answered alike. -/
theorem check_of_compile {webOfRun : Web} {summary : Logged Summary} {after : FileSystem}
    (halike : AnswerAlike generator.settings.input web webOfRun)
    (h : (generator.compile webOfRun.fetch : StateM FileSystem _).run fs = (.ok summary, after)) :
    ∃ forms : Logged (List Form),
      (generator.check web.fetch : StateM FileSystem _).run fs = (.ok forms, fs) ∧
      summary.value.forms = forms.value.length ∧
      summary.value.controls = Form.totalControls forms.value := by
  obtain ⟨document, forms, hprepare, hcount, hcontrols⟩ := prepare_of_compile h
  refine ⟨document >>= fun _ => forms, ?_, hcount, hcontrols⟩
  rw [check_run, prepare_congr halike, hprepare]
  rfl

end

/-! ## What is reported -/

/-- Two texts show the same totals, the first as a generation reports them and the second as
a check does. -/
structure ShowTotals (forms controls : Nat) (generated checked : String) : Prop where
  generated : ∃ rest, generated =
    Report.success ("Generated " ++ toString forms ++ " form(s) · " ++ toString controls ++
      " control(s)") ++ rest
  checked : ∃ start rest, checked =
    start ++ ("    " ++ toString forms ++ " forms · " ++ toString controls ++
      " controls · rules: ") ++ rest

theorem showTotals_of_eq {summary : Summary} {forms : List Form} {rules : Registry}
    (hforms : summary.forms = forms.length)
    (hcontrols : summary.controls = Form.totalControls forms) (elapsed : String) :
    ShowTotals forms.length (Form.totalControls forms) (Report.generated summary elapsed)
      (Report.checked forms rules) where
  generated := by
    refine ⟨String.join (summary.files.map Report.file) ++ "\n" ++
      Report.timing "Completed" elapsed, ?_⟩
    simp only [Report.generated, hforms, hcontrols, String.append_assoc]
  checked := by
    refine ⟨Report.success "Looking good." ++ "\n" ++ Report.boxTop "FORMS" ++ Report.boxLine ++
      String.join (forms.map (Report.form (Report.largest forms))) ++ Report.boxLine ++
      Report.boxBottom ++ "\n", ", ".intercalate rules.names ++ "\n", ?_⟩
    simp only [Report.checked, String.append_assoc]

/-- The commands are a run and a check with the standard rules. -/
theorem check_of_generate {settings : Settings} {web webOfRun : Web} {fs after : FileSystem}
    {summary : Logged Summary} (halike : AnswerAlike settings.input web webOfRun)
    (h : ((Command.generate settings).run webOfRun.fetch : StateM FileSystem Outcome).run fs =
      (.generated summary, after)) :
    ∃ forms : Logged (List Form),
      ((Command.check settings.input).run web.fetch : StateM FileSystem Outcome).run fs =
        (.checked forms .standard, fs) ∧
      summary.value.forms = forms.value.length ∧
      summary.value.controls = Form.totalControls forms.value := by
  rw [Command.run] at h
  obtain ⟨result, between, hcompile, hend⟩ := run_bind_eq h
  cases result with
  | error e => cases hend
  | ok found =>
    obtain ⟨hfound, rfl⟩ := Prod.mk.inj hend
    obtain rfl := Outcome.generated.inj hfound
    have hsame : AnswerAlike ({ settings } : Generator).settings.input web webOfRun := halike
    obtain ⟨forms, hcheck, hcount, hcontrols⟩ := check_of_compile hsame hcompile
    -- Of the settings only the input plays a part before anything is written, so the generator
    -- that the command checks with prepares the same.
    let checker : Generator := { settings := { input := settings.input } }
    have hchecked : (checker.check web.fetch : StateM FileSystem _).run fs = (.ok forms, fs) := by
      rw [check_run] at hcheck ⊢
      exact hcheck
    refine ⟨forms, ?_, hcount, hcontrols⟩
    rw [Command.run, run_bind_of_eq hchecked]
    rfl

/-- **A check changes nothing and predicts the run.** Loading and checking leave all files as
they are. When loading fails, or making the forms does, a check and a run fail with that
failure, and the run too leaves everything as it is. When a run succeeds, the check before it
succeeds with as many forms and controls; so the commands, too, report the same totals. A
specification on the web is fetched by each of them, and both requests are answered alike. -/
theorem check_predicts_run (generator : Generator) (fs : FileSystem) (web webOfRun : Web)
    (halike : AnswerAlike generator.settings.input web webOfRun) :
    ((generator.load web.fetch : StateM FileSystem _).run fs).2 = fs ∧
    ((generator.check web.fetch : StateM FileSystem _).run fs).2 = fs ∧
    (∀ e, ((generator.load web.fetch : StateM FileSystem _).run fs).1 = .error e →
      (generator.check web.fetch : StateM FileSystem _).run fs = (.error e, fs) ∧
        (generator.compile webOfRun.fetch : StateM FileSystem _).run fs = (.error e, fs)) ∧
    (∀ document e, ((generator.load web.fetch : StateM FileSystem _).run fs).1 = .ok document →
      document.value.forms generator.rules = .error e →
        (generator.check web.fetch : StateM FileSystem _).run fs = (.error e, fs) ∧
          (generator.compile webOfRun.fetch : StateM FileSystem _).run fs = (.error e, fs)) ∧
    (∀ summary after,
      (generator.compile webOfRun.fetch : StateM FileSystem _).run fs = (.ok summary, after) →
      ∃ forms : Logged (List Form),
        (generator.check web.fetch : StateM FileSystem _).run fs = (.ok forms, fs) ∧
          summary.value.forms = forms.value.length ∧
          summary.value.controls = Form.totalControls forms.value) ∧
    (∀ settings summary after, AnswerAlike settings.input web webOfRun →
      ((Command.generate settings).run webOfRun.fetch : StateM FileSystem Outcome).run fs =
        (.generated summary, after) →
      ∃ forms : Logged (List Form),
        ((Command.check settings.input).run web.fetch : StateM FileSystem Outcome).run fs =
          (.checked forms .standard, fs) ∧
        ∀ elapsed elapsed', ShowTotals forms.value.length (Form.totalControls forms.value)
          ((Outcome.generated summary).report elapsed)
          ((Outcome.checked forms .standard).report elapsed')) := by
  have hfailed : ∀ e, generator.prepare web fs = .error e →
      (generator.check web.fetch : StateM FileSystem _).run fs = (.error e, fs) ∧
        (generator.compile webOfRun.fetch : StateM FileSystem _).run fs = (.error e, fs) := by
    intro e h
    refine ⟨?_, compile_of_prepare_error ((prepare_congr halike).symm.trans h)⟩
    rw [check_run, h]
    rfl
  refine ⟨?_, ?_, ?_, ?_, ?_, ?_⟩
  · rw [load_run]
  · rw [check_run]
  · intro e hload
    rw [load_run] at hload
    exact hfailed e (prepare_of_loaded_error hload)
  · intro document e hload hforms
    rw [load_run] at hload
    exact hfailed e (prepare_of_loaded_ok hload hforms)
  · intro summary after hcompile
    exact check_of_compile halike hcompile
  · intro settings summary after halike hrun
    obtain ⟨forms, hcheck, hcount, hcontrols⟩ := check_of_generate halike hrun
    exact ⟨forms, hcheck, fun elapsed _ => showTotals_of_eq hcount hcontrols elapsed⟩

/-- A specification without schemas. -/
def barrenText : String :=
  "\x7b\x7d"

def barrenFiles : FileSystem :=
  { entries := [(["a.json"], .file barrenText.toUTF8)], workingDirectory := [] }

theorem loaded_barren (web : Web) : twinGenerator.loaded web barrenFiles =
    .ok { value := {}, events := [.specParsed "a.json" 0] } := by
  have hlocal : isUrl twinGenerator.settings.input = false := rfl
  have hfile : barrenFiles.read (Path.ofText twinGenerator.settings.input) =
      .ok barrenText.toUTF8 := rfl
  have hread : (Format.detect "a.json").read? barrenText = some (.object []) := rfl
  have hinline : (Json.object []).inlineReferences = .ok (.object []) :=
    (Json.Expands.object rfl .nil).inline_nil _
  have hdocument : Document.ofJson (.object []) = .ok {} := rfl
  have hparse : Spec.parse "a.json" barrenText =
      .ok { value := {}, events := [.specParsed "a.json" 0] } := by
    rw [Spec.parse, hread]
    simp only [Spec.ofValue, hinline, hdocument]
    rfl
  rw [loaded_of_textAt (textAt_of_read hlocal hfile web)]
  exact hparse

/-- The generator for the two definitions when they are on the web. -/
def webGenerator : Generator :=
  { settings := { twinGenerator.settings with input := "http://a.json" } }

/-- A web with their specification at every address. -/
def twinWeb : Web :=
  fun _ => .ok twinText

/-- A web with their specification at one address. -/
def smallWeb : Web :=
  fun address => if address = "http://a.json" then .ok twinText else .error .unreachable

/-- No file at all. -/
def missingFiles : FileSystem :=
  { entries := [], workingDirectory := [] }

theorem loaded_smallWeb : webGenerator.loaded smallWeb missingFiles =
    .ok { value := twinDocument, events := [.specParsed "http://a.json" 2] } := by
  have htext : missingFiles.textAt smallWeb webGenerator.settings.input = .ok twinText :=
    textAt_of_isUrl rfl _ _
  rw [loaded_of_textAt htext]
  exact parse_twins rfl

/-- The forms of the two definitions, wherever their specification is. -/
theorem forms_of_check_twins {generator : Generator} {web : Web} {fs : FileSystem}
    {events : List Event} {forms : Logged (List Form)} (hrules : generator.rules = .standard)
    (hloaded : generator.loaded web fs = .ok { value := twinDocument, events })
    (h : (generator.check web.fetch : StateM FileSystem _).run fs = (.ok forms, fs)) :
    forms.value = [dottedForm, plainForm] := by
  obtain ⟨made, hmade, hvalue⟩ : ∃ made, twinDocument.forms generator.rules = .ok made ∧
      made.value = [dottedForm, plainForm] := by
    rw [hrules]
    exact ⟨_, rfl, rfl⟩
  rw [check_run, prepare_of_loaded_ok hloaded hmade] at h
  obtain rfl := Except.ok.inj (Prod.mk.inj h).1
  exact hvalue

/-- The file is missing; the specification has no schemas; a run that succeeds; and another
one, of a specification on the web, which was checked on a different web. -/
theorem check_predicts_run_twins :
    (twinGenerator.compile twinWeb.fetch : StateM FileSystem _).run missingFiles =
      (.error (.load "a.json" (.unreadable .notFound)), missingFiles) ∧
    (twinGenerator.compile twinWeb.fetch : StateM FileSystem _).run barrenFiles =
      (.error .noSchemas, barrenFiles) ∧
    (∃ (summary : Logged Summary) (after : FileSystem),
      (twinGenerator.compile twinWeb.fetch : StateM FileSystem _).run twinFiles =
          (.ok summary, after) ∧
        summary.value.forms = 2 ∧ summary.value.controls = 1) ∧
    AnswerAlike webGenerator.settings.input smallWeb twinWeb ∧
    ∃ (summary : Logged Summary) (after : FileSystem),
      (webGenerator.compile twinWeb.fetch : StateM FileSystem _).run missingFiles =
          (.ok summary, after) ∧
        summary.value.forms = 2 ∧ summary.value.controls = 1 := by
  have halike : AnswerAlike twinGenerator.settings.input emptyWeb twinWeb := .of_path rfl _ _
  have halikeOnWeb : AnswerAlike webGenerator.settings.input smallWeb twinWeb := fun _ => rfl
  refine ⟨?_, ?_, ?_, halikeOnWeb, ?_⟩
  · obtain ⟨-, -, hload, -, -, -⟩ := check_predicts_run twinGenerator missingFiles _ _ halike
    exact (hload _ rfl).2
  · obtain ⟨-, -, -, hforms, -, -⟩ := check_predicts_run twinGenerator barrenFiles _ _ halike
    exact (hforms _ _ (by rw [load_run, loaded_barren]) rfl).2
  · obtain ⟨-, -, -, -, hrun, -⟩ := check_predicts_run twinGenerator twinFiles _ _ halike
    obtain ⟨summary, after, hcompile, -⟩ := compile_twins twinWeb
    obtain ⟨forms, hcheck, hcount, hcontrols⟩ := hrun summary after hcompile
    rw [forms_of_check_twins rfl (loaded_twins emptyWeb) hcheck] at hcount hcontrols
    exact ⟨summary, after, hcompile, hcount, hcontrols⟩
  · obtain ⟨-, -, -, -, hrun, -⟩ := check_predicts_run webGenerator missingFiles _ _ halikeOnWeb
    obtain ⟨summary, -, hcompile⟩ :=
      compile_of_write ((loaded_congr halikeOnWeb).symm.trans loaded_smallWeb) rfl rfl
    obtain ⟨forms, hcheck, hcount, hcontrols⟩ := hrun summary _ hcompile
    rw [forms_of_check_twins rfl loaded_smallWeb hcheck] at hcount hcontrols
    exact ⟨summary, _, hcompile, hcount, hcontrols⟩

end SchemaForms
