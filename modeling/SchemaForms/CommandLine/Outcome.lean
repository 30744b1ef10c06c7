/-
What a command comes to. Only files are looked at and written on the way; what is
printed, and the number the program ends with, are functions of the outcome.
-/
import SchemaForms.CommandLine.Invocation
import SchemaForms.CommandLine.Report

set_option autoImplicit false

namespace SchemaForms.CommandLine

/-- Why a specification cannot be watched. -/
inductive Unwatchable where
  | address (input : String)
  | noFile (input : String)

def Unwatchable.message : Unwatchable → String
  | address input => "Watch mode needs a local spec file, got a URL: " ++ input
  | noFile input => "Not a file: " ++ input

inductive Outcome where
  | generated (summary : Logged Summary)
  | checked (forms : Logged (List Form)) (rules : Registry)
  /-- The specification is watched from now on; this is the first generation. -/
  | watching (settings : Settings) (first : Except Failure (Logged Summary))
  | failed (failure : Failure)
  | unwatchable (reason : Unwatchable)

namespace Outcome

/-- The number that the program ends with. -/
def exitCode : Outcome → Nat
  | failed _ => 1
  | unwatchable _ => 1
  | _ => 0

/-- What is told on the way. -/
def events : Outcome → List Event
  | generated summary => summary.events
  | checked forms _ => forms.events
  | watching _ (.ok summary) => summary.events
  | _ => []

/-- A generation while watching; a failure does not end it. -/
def regeneration (elapsed : String) : Except Failure (Logged Summary) → String
  | .ok summary => Report.regenerated summary.value elapsed
  | .error failure => Report.error failure.message

/-- What is printed, given how many milliseconds went by. -/
def report (elapsed : String) : Outcome → String
  | generated summary => Report.generated summary.value elapsed
  | checked forms rules => Report.checked forms.value rules
  | watching settings first =>
    regeneration elapsed first ++ "\n" ++
      Report.info ("Watching for changes in " ++ settings.input) ++
      Report.info "Ready! Waiting for changes..."
  | failed _ => Report.failed
  | unwatchable _ => ""

/-- What is printed as a problem. -/
def problem : Outcome → String
  | failed failure => Report.diagnosis failure
  | unwatchable reason => reason.message ++ "\n"
  | _ => ""

end Outcome

/-- Why a specification cannot be watched, if it cannot. -/
def unwatchable? (input : String) : Option Unwatchable :=
  if isUrl input then some (.address input)
  else if (Path.ofText input).fileName?.isNone then some (.noFile input)
  else none

variable {m : Type → Type} [Monad m] [Files m]

/-- Runs a command. -/
def Command.run (command : Command) (fetch : Fetch m := .offline) : m Outcome :=
  match command with
  | generate settings => do
    match ← ({ settings } : Generator).compile fetch with
    | .ok summary => return .generated summary
    | .error failure => return .failed failure
  | check input => do
    let generator : Generator := { settings := { input } }
    match ← generator.check fetch with
    | .ok forms => return .checked forms generator.rules
    | .error failure => return .failed failure
  | watch settings => do
    match unwatchable? settings.input with
    | some reason => return .unwatchable reason
    | none => return .watching settings (← ({ settings } : Generator).compile fetch)

end SchemaForms.CommandLine
