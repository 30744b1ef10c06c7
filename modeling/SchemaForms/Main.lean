/-
The program. It gives the commands access to the files of the machine, prints what they
come to, and goes on watching where that is asked for. It has no web client, so addresses
on the web are out of its reach. Nothing is decided here.
-/
import SchemaForms.CommandLine.Outcome

set_option autoImplicit false

namespace SchemaForms.Main

open CommandLine

/-! ## Files of the machine -/

/-- The number by which the operating system names an error, negated or not. -/
def errorNumber : IO.Error → UInt32
  | .alreadyExists _ n _ => n
  | .otherError n _ => n
  | .noFileOrDirectory _ n _ => n
  | .invalidArgument _ n _ => n
  | .resourceExhausted _ n _ => n
  | .inappropriateType _ n _ => n
  | .noSuchThing _ n _ => n
  | .illegalOperation n _ => n
  | _ => 0

/-- Why the operating system refused. -/
def osError (error : IO.Error) : OsError :=
  match min (errorNumber error) (-errorNumber error) with
  | 2 => .notFound
  | 17 => .alreadyExists
  | 20 => .notDirectory
  | 21 => .isDirectory
  | 36 => .nameTooLong
  | _ => .other (toString error)

/-- Tries an operation on a path. -/
def attempt {α : Type} (path : Path) (operation : String → IO α) : IO (Except OsError α) := do
  if path.text.toList.contains '\x00' then
    return .error .holdsNul
  else
    try
      return .ok (← operation path.text)
    catch error =>
      return .error (osError error)

instance : Files IO where
  read path := attempt path fun name => IO.FS.readBinFile name
  write path content := attempt path fun name => IO.FS.writeBinFile name content
  makeDirectory path := attempt path fun name => IO.FS.createDir name

/-- How the program fetches texts from the web. -/
def fetch : Fetch IO :=
  .offline

/-! ## Commands -/

def usage : String :=
  "Usage: formgen [-v]... <command>\n\n" ++
    "Generates forms from an OpenAPI v2 or v3 specification.\n\n" ++
    "Commands:\n" ++
    "  generate -i <spec> [-o <directory>] [-f <file name>] [-m]\n" ++
    "  check    -i <spec>\n" ++
    "  watch    -i <spec> [-o <directory>] [-f <file name>] [-m]\n"

/-- Is an event told at this verbosity? -/
def isTold (verbosity : Nat) (event : Event) : Bool :=
  event.level == .warn || 2 ≤ verbosity

/-- A value, with the time it took in milliseconds. -/
def timed {α : Type} (action : IO α) : IO (α × String) := do
  let start ← IO.monoMsNow
  let value ← action
  return (value, toString ((← IO.monoMsNow) - start))

/-- How long a change may stay unnoticed, in milliseconds. -/
def pause : UInt32 := 500

/-- Prints a text at once. -/
def announce (text : String) : IO Unit := do
  IO.print text
  (← IO.getStdout).flush

/-- Generates files again whenever the specification has changed. -/
partial def watch (settings : Settings) (known : Except OsError ByteArray) : IO Unit := do
  IO.sleep pause
  let found ← (Files.read (Path.ofText settings.input) : IO _)
  let changed :=
    match known, found with
    | .ok a, .ok b => a != b
    | .error _, .ok _ => true
    | _, .error _ => false
  if changed then
    let (result, elapsed) ← timed (({ settings } : Generator).compile fetch)
    announce ("\n" ++ Outcome.regeneration elapsed result ++ "\n" ++
      Report.info "Ready! Waiting for changes...")
  watch settings found

/-- Prints what a command comes to, and goes on watching. -/
def conclude (verbosity : Nat) (outcome : Outcome) (elapsed : String) : IO UInt32 := do
  for event in outcome.events do
    if isTold verbosity event then IO.eprint (Report.event event)
  announce (outcome.report elapsed)
  IO.eprint outcome.problem
  if let .watching settings _ := outcome then
    watch settings (← Files.read (Path.ofText settings.input))
  return outcome.exitCode.toUInt32

end SchemaForms.Main

open SchemaForms CommandLine in
def main (arguments : List String) : IO UInt32 := do
  match Invocation.ofArguments arguments with
  | .error .help =>
    IO.print Main.usage
    return 0
  | .error .misuse =>
    IO.eprint Main.usage
    return 2
  | .ok invocation =>
    let (outcome, elapsed) ← Main.timed (invocation.command.run Main.fetch)
    Main.conclude invocation.verbosity outcome elapsed
