/-
Recursions with their calls left open.

A recursive function that Lean accepts ends, for it is accepted with its measure. To say that a
recursion ends *as it is written*, with nothing in it that says so, its calls are left open:
what a call does is a row of steps, in each of which it makes another call and goes on with the
answer to that (`Steps`). Such a body can be run with a budget, which bounds how deep calls are
nested inside one another; a run that needs more has no answer (`answerWithin`). The body can
also be asked for the calls it makes (`Steps.Makes`), whatever the answers to the calls before
are.

The two are tied together here once for all bodies. If every call makes calls of a lower rank
only, no more calls are nested than the rank says (`Descends.isSome_answerWithin`), and if there are
answers that solve the equations of the body, the run gives these (`Descends.answerWithin_eq`). That
the answers solve the equations is where the body is compared with another definition; that
ranks go down is where the recursion ends. Neither is used for the other.
-/

set_option autoImplicit false

namespace SchemaForms.Recursion

variable {Call : Type} {Answer : Call → Type} {α β : Type}

/-! ## Steps -/

/-- What a call does: it has a result, or it makes a call and goes on with the answer. -/
inductive Steps (Answer : Call → Type) (α : Type) where
  | done (result : α)
  | ask (call : Call) (next : Answer call → Steps Answer α)

namespace Steps

def bind : Steps Answer α → (α → Steps Answer β) → Steps Answer β
  | done result, rest => rest result
  | ask call next, rest => ask call fun answer => (next answer).bind rest

instance : Monad (Steps Answer) where
  pure := done
  bind := bind

/-- Makes a call for its answer. -/
def answerTo (call : Call) : Steps Answer (Answer call) :=
  ask call done

/-- The result, when calls are answered as given; none if an answer is missing. -/
def run? (answer? : (call : Call) → Option (Answer call)) : Steps Answer α → Option α
  | done result => some result
  | ask call next =>
    match answer? call with
    | some answer => (next answer).run? answer?
    | none => none

/-- The call is among those that are made, for some answers to the calls before it. -/
inductive Makes : Steps Answer α → Call → Prop
  | here (call : Call) (next : Answer call → Steps Answer α) : Makes (ask call next) call
  | later (call : Call) (next : Answer call → Steps Answer α) (answer : Answer call)
      {made : Call} (h : Makes (next answer) made) : Makes (ask call next) made

/-! ### Running -/

section

variable (answer? : (call : Call) → Option (Answer call))

@[simp] theorem run?_pure (result : α) :
    (pure result : Steps Answer α).run? answer? = some result := rfl

@[simp] theorem run?_answerTo (call : Call) :
    (answerTo call : Steps Answer (Answer call)).run? answer? = answer? call := by
  rw [answerTo, run?]
  cases answer? call <;> rfl

@[simp] theorem run?_bind (first : Steps Answer α) (rest : α → Steps Answer β) :
    (first >>= rest).run? answer? = (first.run? answer?).bind fun a => (rest a).run? answer? := by
  induction first with
  | done result => rfl
  | ask call next ih =>
    have hstep : (ask call next >>= rest) = ask call fun answer => next answer >>= rest := rfl
    rw [hstep, run?, run?]
    cases answer? call with
    | none => rfl
    | some answer => exact ih answer

end

/-- Only the answers to calls that are made play a part. -/
theorem run?_congr {first second : (call : Call) → Option (Answer call)} {steps : Steps Answer α}
    (h : ∀ call, steps.Makes call → first call = second call) :
    steps.run? first = steps.run? second := by
  induction steps with
  | done result => rfl
  | ask call next ih =>
    rw [run?, run?, h call (.here call next)]
    cases second call with
    | none => rfl
    | some answer => exact ih answer fun made hmade => h made (.later call next answer hmade)

/-- There is a result when all calls that are made have answers. -/
theorem isSome_run? {answer? : (call : Call) → Option (Answer call)} {steps : Steps Answer α}
    (h : ∀ call, steps.Makes call → (answer? call).isSome = true) :
    (steps.run? answer?).isSome = true := by
  induction steps with
  | done result => rfl
  | ask call next ih =>
    obtain ⟨answer, hanswer⟩ := Option.isSome_iff_exists.1 (h call (.here call next))
    rw [run?, hanswer]
    exact ih answer fun made hmade => h made (.later call next answer hmade)

/-! ### Calls -/

theorem not_makes_pure (result : α) (call : Call) :
    ¬(pure result : Steps Answer α).Makes call := by
  intro h
  cases h

theorem Makes.of_answerTo {call made : Call}
    (h : (answerTo call : Steps Answer (Answer call)).Makes made) : made = call := by
  cases h with
  | here => rfl
  | later _ _ answer h => exact absurd h (not_makes_pure answer made)

/-- The calls of steps in a row are those of the first, and then those of the rest. -/
theorem Makes.of_bind {first : Steps Answer α} {rest : α → Steps Answer β} {made : Call}
    (h : (first >>= rest).Makes made) : first.Makes made ∨ ∃ result, (rest result).Makes made := by
  induction first with
  | done result => exact .inr ⟨result, h⟩
  | ask call next ih =>
    cases h with
    | here => exact .inl (.here _ next)
    | later _ _ answer h => exact (ih answer h).imp_left (.later call next answer)

/-- Steps that end with a function of their result make the calls of those before it. -/
theorem Makes.of_map {first : Steps Answer α} {f : α → β} {made : Call}
    (h : (first >>= fun result => pure (f result)).Makes made) : first.Makes made := by
  rcases h.of_bind with h | ⟨result, h⟩
  · exact h
  · exact absurd h (not_makes_pure (f result) made)

end Steps

/-! ## Recursion -/

section

variable {body : (call : Call) → Steps Answer (Answer call)}
variable {known : Call → Prop} {rank : Call → Nat}

/-- The answer to a call when at most as many calls as the budget says are nested, this one
counted; none if it takes more. -/
def answerWithin (body : (call : Call) → Steps Answer (Answer call)) :
    Nat → (call : Call) → Option (Answer call)
  | 0, _ => none
  | budget + 1, call => (body call).run? (answerWithin body budget)

/-- What is known of a call is known of the calls it makes, and they have a lower rank. -/
structure Descends (body : (call : Call) → Steps Answer (Answer call)) (known : Call → Prop)
    (rank : Call → Nat) : Prop where
  known_of_makes : ∀ {call made : Call}, known call → (body call).Makes made → known made
  rank_lt : ∀ {call made : Call}, known call → (body call).Makes made → rank made < rank call

/-- **A recursion whose ranks go down ends.** The induction is on the budget: a call that is
made has a rank below the budget that is left for it. -/
theorem Descends.isSome_answerWithin (h : Descends body known rank) {budget : Nat} {call : Call}
    (hknown : known call) (hbudget : rank call < budget) :
    (answerWithin body budget call).isSome = true := by
  induction budget generalizing call with
  | zero => exact absurd hbudget (Nat.not_lt_zero _)
  | succ budget ih =>
    apply Steps.isSome_run?
    intro made hmade
    have hlower := h.rank_lt hknown hmade
    exact ih (h.known_of_makes hknown hmade) (by omega)

/-- **It ends with the answers that solve its equations.** -/
theorem Descends.answerWithin_eq (h : Descends body known rank)
    {answer? : (call : Call) → Option (Answer call)}
    (hsolves : ∀ call, known call → (body call).run? answer? = answer? call)
    {budget : Nat} {call : Call} (hknown : known call) (hbudget : rank call < budget) :
    answerWithin body budget call = answer? call := by
  induction budget generalizing call with
  | zero => exact absurd hbudget (Nat.not_lt_zero _)
  | succ budget ih =>
    rw [answerWithin, ← hsolves call hknown]
    apply Steps.run?_congr
    intro made hmade
    have hlower := h.rank_lt hknown hmade
    exact ih (h.known_of_makes hknown hmade) (by omega)

end

end SchemaForms.Recursion
