/-
What the location of a specification tells about it. A query or fragment at the end plays
no part; what is left may end in the extension of a notation, in capitals or not.
-/

set_option autoImplicit false

namespace SchemaForms

/-- The notation of a specification. -/
inductive Format where
  | json
  | yaml
  /-- The location does not tell. -/
  | unknown
deriving DecidableEq

namespace Format

/-- The location up to its query or fragment. -/
def addressPart (location : String) : List Char :=
  location.toList.takeWhile fun c => c ≠ '?' ∧ c ≠ '#'

/-- Does the text end in the given one? -/
def endsIn (s ending : List Char) : Bool :=
  ending.reverse.isPrefixOf s.reverse

/-- The notation that a location suggests. -/
def detect (location : String) : Format :=
  let address := (addressPart location).map Char.toLower
  if endsIn address ".yaml".toList || endsIn address ".yml".toList then .yaml
  else if endsIn address ".json".toList then .json
  else .unknown

end Format

/-- Is the location an address on the web rather than a path? -/
def isUrl (location : String) : Bool :=
  "http://".toList.isPrefixOf location.toList || "https://".toList.isPrefixOf location.toList

end SchemaForms
