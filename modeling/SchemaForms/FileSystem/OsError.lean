/-
Why the operating system refuses a path. These are the refusals that reading, writing
and making directories can meet without links, permissions or a full disk; any other is
passed on as the text it came with.
-/

set_option autoImplicit false

namespace SchemaForms

inductive OsError where
  | notFound
  | alreadyExists
  | notDirectory
  | isDirectory
  | nameTooLong
  /-- The path holds the character that ends paths. -/
  | holdsNul
  | other (text : String)
deriving DecidableEq

def OsError.message : OsError → String
  | notFound => "No such file or directory (os error 2)"
  | alreadyExists => "File exists (os error 17)"
  | notDirectory => "Not a directory (os error 20)"
  | isDirectory => "Is a directory (os error 21)"
  | nameTooLong => "File name too long (os error 36)"
  | holdsNul => "file name contained an unexpected NUL byte"
  | other text => text

end SchemaForms
