/-!
# Faults

A computation that cannot go on stops with a fault. There are few: drawing from nothing, a sum or a
product that leaves its word, a duration whose seconds leave their word, and a round that is too
large to be held. `Fault.message` is the one place that words them. A computation of several steps
stops where the first of them does.
-/

set_option autoImplicit false

namespace TaskReplicas

/-- Why a computation stops without a result. -/
inductive Fault
  /-- An index was drawn from a range that holds none. -/
  | emptyRange
  /-- A checked sum left its word. -/
  | addOverflow
  /-- A checked product left its word. -/
  | mulOverflow
  /-- The whole seconds of a duration left their word. -/
  | durationOverflow
  /-- A round asked for more room than a list can have. -/
  | capacityOverflow
deriving DecidableEq

/-- The text that reports a fault. -/
def Fault.message : Fault → String
  | .emptyRange => "cannot sample empty range"
  | .addOverflow => "attempt to add with overflow"
  | .mulOverflow => "attempt to multiply with overflow"
  | .durationOverflow => "overflow in Duration::new"
  | .capacityOverflow => "capacity overflow"

/-! ## Steps that may stop -/

section Steps

variable {ε α β : Type} {x : Except ε α}

/-- What follows a result goes on with it. -/
theorem ok_bind (a : α) (f : α → Except ε β) : (Except.ok a >>= f) = f a := rfl

/-- Two steps give a result when the first gives one from which the second gives it. -/
theorem bind_eq_ok_iff {f : α → Except ε β} {b : β} :
    x >>= f = .ok b ↔ ∃ a, x = .ok a ∧ f a = .ok b := by
  cases x <;> simp [bind, Except.bind]

/-- Two steps stop when the first does, or when it gives a result on which the second does. -/
theorem bind_eq_error_iff {f : α → Except ε β} {e : ε} :
    x >>= f = .error e ↔ x = .error e ∨ ∃ a, x = .ok a ∧ f a = .error e := by
  cases x <;> simp [bind, Except.bind]

/-- What is made of a result is made of one that there is. -/
theorem map_eq_ok_iff {f : α → β} {b : β} : x.map f = .ok b ↔ ∃ a, x = .ok a ∧ f a = b := by
  cases x <;> simp [Except.map]

end Steps

end TaskReplicas
