/-
Values of a document. A document is read into one such value whatever its notation, and
references are replaced and schemas decoded from there.

Members of an object keep their order, but equality of values does not look at it: two
objects are the same value when they have the same keys with the same values. The
function `sameValue` decides this; it is not the equality of the type, which does see
the order.
-/
import SchemaForms.Number.Basic
import SchemaForms.Keyed

set_option autoImplicit false

namespace SchemaForms

/-- A value of a document. -/
inductive Json where
  | null
  | bool (value : Bool)
  | number (value : Number)
  | string (value : String)
  | array (items : List Json)
  | object (members : List (String × Json))
deriving Inhabited

namespace Json

/-- The member of an object. -/
def member? (key : String) : Json → Option Json
  | object members => Keyed.get? members key
  | _ => none

/-! ## Sameness -/

mutual

/-- The same value, the order of members apart. -/
def sameValue : Json → Json → Bool
  | null, null => true
  | bool a, bool b => a == b
  | number a, number b => a.sameValue b
  | string a, string b => a == b
  | array as, array bs => sameItems as bs
  | object as, object bs => as.length == bs.length && sameMembers as bs
  | _, _ => false

/-- The same values in the same order. -/
def sameItems : List Json → List Json → Bool
  | [], [] => true
  | a :: as, b :: bs => sameValue a b && sameItems as bs
  | _, _ => false

/-- Every member has a counterpart of the same value. -/
def sameMembers : List (String × Json) → List (String × Json) → Bool
  | [], _ => true
  | (key, a) :: as, bs =>
    (match Keyed.get? bs key with
      | some b => sameValue a b
      | none => false) && sameMembers as bs

end

end Json

end SchemaForms
