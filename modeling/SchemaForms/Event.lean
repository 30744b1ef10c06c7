/-
What is worth telling while forms are made. An event is data: what happened, and with
which names and numbers. Its level, wording and attributes are functions of it.

A computation that tells events returns them beside its value, in the order in which
they happened (`Logged`).
-/

set_option autoImplicit false

namespace SchemaForms

inductive Level where
  | debug
  | warn
deriving DecidableEq

def Level.text : Level → String
  | debug => "DEBUG"
  | warn => "WARN"

/-- Something that happened on the way from a document to its forms. -/
inductive Event where
  /-- A document was read. -/
  | specParsed (source : String) (definitions : Nat)
  /-- The forms of a document are about to be made. -/
  | compilingDocument (definitions : Nat)
  /-- A definition has become a form. -/
  | compiledDefinition (definition : String) (fields : Nat)
  /-- A name is required that no property has. -/
  | danglingRequired (definition field : String)
  /-- An array wants more entries than there will be copies. -/
  | repeatLimit (field : String) (declared limit : Nat)
  /-- An array does not say what its entries are. -/
  | noItems (field : String)
deriving DecidableEq

namespace Event

def level : Event → Level
  | specParsed _ _ => .debug
  | compilingDocument _ => .debug
  | compiledDefinition _ _ => .debug
  | danglingRequired _ _ => .debug
  | repeatLimit _ _ _ => .warn
  | noItems _ => .warn

def message : Event → String
  | specParsed _ _ => "spec parsed"
  | compilingDocument _ => "compiling document"
  | compiledDefinition _ _ => "compiled definition"
  | danglingRequired _ _ => "required field has no matching property"
  | repeatLimit _ _ _ => "minItems exceeds the repeat limit; rendering fewer copies"
  | noItems _ => "array property has no 'items'; using a bare control template"

/-- The names and numbers of the event, by key. -/
def attributes : Event → List (String × String)
  | specParsed source definitions =>
    [("source", source), ("definitions", toString definitions)]
  | compilingDocument definitions => [("definitions", toString definitions)]
  | compiledDefinition definition fields =>
    [("definition", definition), ("fields", toString fields)]
  | danglingRequired definition field => [("definition", definition), ("field", field)]
  | repeatLimit field declared limit =>
    [("field", field), ("min_items", toString declared), ("max", toString limit)]
  | noItems field => [("field", field)]

end Event

/-! ## Telling events -/

/-- A value, and the events told on the way to it. -/
structure Logged (α : Type) where
  value : α
  events : List Event := []

namespace Logged

variable {α β : Type}

/-- Tells events. -/
def tell (events : List Event) : Logged Unit :=
  { value := (), events }

/-- Goes on from a value; the events of the second part follow those of the first. -/
def bind (first : Logged α) (next : α → Logged β) : Logged β :=
  { value := (next first.value).value, events := first.events ++ (next first.value).events }

instance : Monad Logged where
  pure value := { value }
  bind := Logged.bind

@[simp] theorem value_pure (a : α) : (pure a : Logged α).value = a := rfl

@[simp] theorem events_pure (a : α) : (pure a : Logged α).events = [] := rfl

@[simp] theorem value_bind (first : Logged α) (next : α → Logged β) :
    (first >>= next).value = (next first.value).value := rfl

@[simp] theorem events_bind (first : Logged α) (next : α → Logged β) :
    (first >>= next).events = first.events ++ (next first.value).events := rfl

@[simp] theorem events_tell (events : List Event) : (tell events).events = events := rfl

end Logged

end SchemaForms
