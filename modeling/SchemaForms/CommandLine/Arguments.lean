/-
Arguments of the command line. An option has a long name or several, and most have a
letter. Letters can be written together behind one dash, and a value can follow its
option directly, after an equals sign, or as the next argument. An argument that stands
alone may begin with a dash only if it is nothing else.

Every option but the one for verbosity may be given once. Reading stops at the first
argument that belongs to no option; what that one means is not decided here.
-/

set_option autoImplicit false

namespace SchemaForms.CommandLine

/-! ## Options -/

inductive Choice where
  | input
  | directory
  | fileName
  | perDefinition
  | verbose
  | help
deriving DecidableEq

namespace Choice

def letter : Choice → Char
  | input => 'i'
  | directory => 'o'
  | fileName => 'f'
  | perDefinition => 'm'
  | verbose => 'v'
  | help => 'h'

def names : Choice → List String
  | input => ["input-spec", "swagger-url"]
  | directory => ["output", "out-dir"]
  | fileName => ["file-name", "out-file"]
  | perDefinition => ["multiple-files", "multi"]
  | verbose => ["verbose"]
  | help => ["help"]

/-- Does the option need a value? -/
def needsValue : Choice → Bool
  | input => true
  | directory => true
  | fileName => true
  | _ => false

/-- May the option be given more than once? -/
def isRepeatable (choice : Choice) : Bool :=
  choice == verbose

/-- Is the text a value for the option? A directory has to have a name. -/
def accepts (choice : Choice) (value : String) : Bool :=
  choice != directory || value != ""

end Choice

/-! ## Reading -/

/-- Why reading arguments ended early. -/
inductive Stop where
  /-- The arguments make no command line. -/
  | misuse
  /-- Help was asked for. -/
  | help
deriving DecidableEq

/-- The options given so far, with their values. -/
abbrev Given := List (Choice × String)

namespace Given

/-- Takes up an option with its value. -/
def add (given : Given) (choice : Choice) (value : String) : Except Stop Given :=
  if choice = .help then .error .help
  else if !choice.accepts value then .error .misuse
  else if !choice.isRepeatable && given.any (·.1 == choice) then .error .misuse
  else .ok (given ++ [(choice, value)])

/-- The value of an option. -/
def value? (given : Given) (choice : Choice) : Option String :=
  given.lookup choice

def has (given : Given) (choice : Choice) : Bool :=
  given.any (·.1 == choice)

/-- How often an option was given. -/
def times (given : Given) (choice : Choice) : Nat :=
  given.countP (·.1 == choice)

end Given

/-- The shapes of an argument. -/
inductive Shape where
  /-- Two dashes: no options follow. -/
  | separator
  | long (name : List Char) (value : Option (List Char))
  | letters (letters : List Char)
  | word

/-- The shape of an argument. -/
def Shape.of (argument : String) : Shape :=
  match argument.toList with
  | ['-', '-'] => separator
  | '-' :: '-' :: rest =>
    match rest.dropWhile (· ≠ '=') with
    | _ :: value => long (rest.takeWhile (· ≠ '=')) (some value)
    | [] => long rest none
  | '-' :: c :: rest => letters (c :: rest)
  | _ => word

/-- What an argument made of options leaves: the options so far, and the one that still
waits for its value. -/
abbrev Progress := Given × Option Choice

/-- Reads an option by its long name. -/
def readLong (choices : List Choice) (given : Given) (name : List Char)
    (value : Option (List Char)) : Except Stop Progress :=
  match choices.find? fun choice => choice.names.contains (String.ofList name) with
  | none => .error .misuse
  | some choice =>
    match choice.needsValue, value with
    | true, some value => return (← given.add choice (String.ofList value), none)
    | true, none => .ok (given, some choice)
    | false, some _ => .error .misuse
    | false, none => return (← given.add choice "", none)

/-- Reads options by their letters. What follows the letter of an option with a value is
the value. -/
def readLetters (choices : List Choice) (given : Given) : List Char → Except Stop Progress
  | [] => .ok (given, none)
  | c :: rest =>
    match choices.find? (·.letter == c) with
    | none => .error .misuse
    | some choice =>
      if choice.needsValue then
        match rest with
        | [] => .ok (given, some choice)
        | '=' :: value => return (← given.add choice (String.ofList value), none)
        | value => return (← given.add choice (String.ofList value), none)
      else
        match given.add choice "" with
        | .ok given => readLetters choices given rest
        | .error stop => .error stop

/-- Reads options up to the first argument that is none, and returns it with those that
follow it. -/
def readOptions (choices : List Choice) (given : Given) :
    List String → Except Stop (Given × List String)
  | [] => .ok (given, [])
  | argument :: rest =>
    let progress : Except Stop (Option Progress) :=
      match Shape.of argument with
      | .separator => if rest.isEmpty then .ok (some (given, none)) else .error .misuse
      | .word => .ok none
      | .long name value => some <$> readLong choices given name value
      | .letters letters => some <$> readLetters choices given letters
    match progress with
    | .error stop => .error stop
    | .ok none => .ok (given, argument :: rest)
    | .ok (some (given, none)) => readOptions choices given rest
    | .ok (some (given, some choice)) =>
      match rest with
      | [] => .error .misuse
      | value :: rest =>
        match Shape.of value with
        | .word =>
          match given.add choice value with
          | .ok given => readOptions choices given rest
          | .error stop => .error stop
        | _ => .error .misuse

end SchemaForms.CommandLine
