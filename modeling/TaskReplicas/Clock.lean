import TaskReplicas.Fault

/-!
# Clocks

Updates are stamped with the second in which they are made, and the clock that says so is handed
to whoever makes them. `FixedClock` always shows one instant. `ManualClock` moves only when told
to: `ManualClock.advance` wraps the reading that it keeps and checks the reading that it returns,
so an advance that leaves the 64-bit range reports a fault after the clock has moved.
-/

set_option autoImplicit false

namespace TaskReplicas

/-- Seconds since the epoch. Only the order of timestamps is ever looked at. -/
abbrev Timestamp := Int64

/-- The sum of two timestamps, refused when it is not a timestamp. -/
def Timestamp.checkedAdd (a b : Timestamp) : Except Fault Timestamp :=
  if -2 ^ 63 ≤ a.toInt + b.toInt ∧ a.toInt + b.toInt < 2 ^ 63 then .ok (a + b)
  else .error .addOverflow

/-- What can be asked for the current time. -/
class TimeSource (κ : Type) where
  /-- The current reading. -/
  now : κ → Timestamp

/-- A clock that always shows the same instant. -/
structure FixedClock where
  /-- The instant that it shows. -/
  instant : Timestamp
deriving DecidableEq

instance : TimeSource FixedClock := ⟨FixedClock.instant⟩

/-- A clock that moves only when told to. -/
structure ManualClock where
  /-- The instant that it shows now. -/
  reading : Timestamp := 0
deriving DecidableEq

namespace ManualClock

instance : TimeSource ManualClock := ⟨ManualClock.reading⟩

/-- The clock after it was set to an instant. -/
def set (_clock : ManualClock) (instant : Timestamp) : ManualClock := ⟨instant⟩

/-- Moves the clock by an amount of seconds. The clock itself moves in one step and wraps; what is
returned is the exact sum, or the fault when that sum is no timestamp. -/
def advance (clock : ManualClock) (seconds : Timestamp) : Except Fault Timestamp × ManualClock :=
  (Timestamp.checkedAdd clock.reading seconds, ⟨clock.reading + seconds⟩)

/-- Advances by each amount in turn: what each returned, and the clock at the end. Each advance is
one step, so this is also what threads see that share the clock, in the order of their steps. -/
def advances (clock : ManualClock) : List Timestamp → List (Except Fault Timestamp) × ManualClock
  | [] => ([], clock)
  | seconds :: rest =>
    let (returned, moved) := clock.advance seconds
    let (later, final) := moved.advances rest
    (returned :: later, final)

end ManualClock

end TaskReplicas
