/-
Natural numbers written in digits of a radix up to sixteen. Letters serve as digits above
nine, in capitals or not.
-/

set_option autoImplicit false

namespace SchemaForms.Text

/-- The value of a digit. -/
def digit? (radix : Nat) (c : Char) : Option Nat :=
  let value :=
    if '0' ≤ c ∧ c ≤ '9' then some (c.toNat - '0'.toNat)
    else if 'a' ≤ c ∧ c ≤ 'f' then some (c.toNat - 'a'.toNat + 10)
    else if 'A' ≤ c ∧ c ≤ 'F' then some (c.toNat - 'A'.toNat + 10)
    else none
  value.filter (· < radix)

/-- The number that digits go on from another number. -/
def naturalFrom? (radix n : Nat) : List Char → Option Nat
  | [] => some n
  | c :: rest =>
    match digit? radix c with
    | some d => naturalFrom? radix (n * radix + d) rest
    | none => none

/-- The number that one or more digits stand for. -/
def natural? (radix : Nat) : List Char → Option Nat
  | [] => none
  | digits => naturalFrom? radix 0 digits

end SchemaForms.Text
