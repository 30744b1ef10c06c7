/-
What a command line asks for. In front of the name of a command only the verbosity may
stand; what follows the name is up to the command.
-/
import SchemaForms.CommandLine.Arguments
import SchemaForms.Generator

set_option autoImplicit false

namespace SchemaForms.CommandLine

inductive Command where
  /-- Generate files once. -/
  | generate (settings : Settings)
  /-- Make the forms and write nothing. -/
  | check (input : String)
  /-- Generate files whenever the specification changes. -/
  | watch (settings : Settings)

/-- A command, and how much is to be told about it. -/
structure Invocation where
  verbosity : Nat
  command : Command

/-- The settings that options give; a specification has to be named. -/
def settings (given : Given) : Except Stop Settings :=
  match given.value? .input with
  | none => .error .misuse
  | some input => .ok {
      input
      directory := Path.ofText ((given.value? .directory).getD ".")
      fileName := given.value? .fileName
      perDefinition := given.has .perDefinition }

/-- Reads the options of a command, which are all that follows its name. -/
def readCommand (choices : List Choice) (arguments : List String) : Except Stop Given := do
  match ← readOptions (choices ++ [.verbose, .help]) [] arguments with
  | (given, []) => return given
  | _ => throw .misuse

/-- The options of a command that generates files. -/
def generating : List Choice := [.input, .directory, .fileName, .perDefinition]

/-- Why reading ends at a request for help: it may name one command, and options are no
commands. -/
def helpOn : List String → Stop
  | [] => .help
  | [name] => if ["generate", "check", "watch", "help"].contains name then .help else .misuse
  | _ => .misuse

/-- Reads a command by its name, with its options. -/
def command (name : String) (arguments : List String) : Except Stop (Given × Command) := do
  if name = "generate" then
    let given ← readCommand generating arguments
    return (given, .generate (← settings given))
  else if name = "check" then
    let given ← readCommand [.input] arguments
    return (given, .check (← settings given).input)
  else if name = "watch" then
    let given ← readCommand generating arguments
    return (given, .watch (← settings given))
  else if name = "help" then throw (helpOn arguments)
  else throw .misuse

/-- Reads a command line. -/
def Invocation.ofArguments (arguments : List String) : Except Stop Invocation := do
  match ← readOptions [.verbose, .help] [] arguments with
  | (_, []) => throw .misuse
  | (given, name :: rest) =>
    let (inner, command) ← CommandLine.command name rest
    return { verbosity := given.times .verbose + inner.times .verbose, command }

end SchemaForms.CommandLine
