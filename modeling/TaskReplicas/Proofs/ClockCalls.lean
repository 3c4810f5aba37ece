import Mathlib.Algebra.BigOperators.Group.List.Basic
import Mathlib.Data.List.DropRight
import TaskReplicas.Clock
import TaskReplicas.Decimal.Integer

/-!
# What a manual clock shows after any calls

A manual clock is set and advanced in any order. What it shows at the end can be read off the calls:
the instant of the last setting, or the start when there is none (`lastSet`), and all amounts since
then (`advancedSince`), added up exactly and then wrapped into the range of timestamps
(`ManualClock.toInt_reading_perform`). An advance returns what the clock shows right after it,
unless the exact sum is out of range: then it faults, and the clock has moved all the same.
-/

set_option autoImplicit false

namespace TaskReplicas

/-- Whether an exact number of seconds is a timestamp. -/
def Timestamp.InRange (exact : Int) : Prop := -2 ^ 63 ≤ exact ∧ exact < 2 ^ 63

instance (exact : Int) : Decidable (Timestamp.InRange exact) :=
  inferInstanceAs (Decidable (_ ∧ _))

/-- Something that a manual clock is told to do. -/
inductive ClockCall
  | set (instant : Timestamp)
  | advance (seconds : Timestamp)
deriving DecidableEq

namespace ClockCall

/-- The instant that a call sets the clock to. -/
def instant? : ClockCall → Option Timestamp
  | set instant => some instant
  | advance _ => none

/-- The seconds by which a call moves the clock from where it is. -/
def seconds : ClockCall → Int
  | set _ => 0
  | advance seconds => seconds.toInt

end ClockCall

/-- The instant of the last setting, or the start when the clock was never set. -/
def lastSet (start : Timestamp) (calls : List ClockCall) : Timestamp :=
  (calls.filterMap ClockCall.instant?).getLast?.getD start

/-- The exact sum of all advances behind the last setting. -/
def advancedSince (calls : List ClockCall) : Int :=
  ((calls.rtakeWhile fun call => call.instant?.isNone).map ClockCall.seconds).sum

/-! ## Checked sums -/

/-- A checked sum is given when it is in range, and is a fault otherwise. -/
theorem checkedAdd_eq_ite (a b : Timestamp) :
    Timestamp.checkedAdd a b =
      if Timestamp.InRange (a.toInt + b.toInt) then .ok (a + b) else .error .addOverflow := rfl

/-- A checked sum is given just in case it is in range. -/
theorem checkedAdd_eq_ok_iff (a b : Timestamp) :
    Timestamp.checkedAdd a b = .ok (a + b) ↔ Timestamp.InRange (a.toInt + b.toInt) := by
  by_cases fits : Timestamp.InRange (a.toInt + b.toInt) <;> simp [checkedAdd_eq_ite, fits]

/-- A checked sum is a fault just in case it is out of range. -/
theorem checkedAdd_eq_error_iff (a b : Timestamp) :
    Timestamp.checkedAdd a b = .error .addOverflow ↔
      ¬ Timestamp.InRange (a.toInt + b.toInt) := by
  by_cases fits : Timestamp.InRange (a.toInt + b.toInt) <;> simp [checkedAdd_eq_ite, fits]

/-- Where the exact sum is a timestamp, nothing wraps. -/
theorem toInt_add_of_inRange {a b : Timestamp} (fits : Timestamp.InRange (a.toInt + b.toInt)) :
    (a + b).toInt = a.toInt + b.toInt := by
  rw [Int64.toInt_add]
  unfold Timestamp.InRange at fits
  exact Int.bmod_eq_of_le (by omega) (by omega)

/-! ## Reading the calls from their end -/

/-- After a set, the last instant that was set is its. -/
theorem lastSet_append_set (start instant : Timestamp) (calls : List ClockCall) :
    lastSet start (calls ++ [.set instant]) = instant := by
  simp [lastSet, ClockCall.instant?]

/-- An advance leaves the last instant that was set. -/
theorem lastSet_append_advance (start seconds : Timestamp) (calls : List ClockCall) :
    lastSet start (calls ++ [.advance seconds]) = lastSet start calls := by
  simp [lastSet, ClockCall.instant?]

/-- A set starts the advances anew. -/
theorem advancedSince_append_set (instant : Timestamp) (calls : List ClockCall) :
    advancedSince (calls ++ [.set instant]) = 0 := by
  simp [advancedSince, ClockCall.instant?]

/-- An advance counts with those since the last set. -/
theorem advancedSince_append_advance (seconds : Timestamp) (calls : List ClockCall) :
    advancedSince (calls ++ [.advance seconds]) = advancedSince calls + seconds.toInt := by
  simp [advancedSince, ClockCall.instant?, ClockCall.seconds]

namespace ManualClock

/-- What a call answers, if it answers anything, and the clock after it. -/
def call (clock : ManualClock) : ClockCall → Option (Except Fault Timestamp) × ManualClock
  | .set instant => (none, clock.set instant)
  | .advance seconds => ((clock.advance seconds).map some id)

/-- What calls answer, one after the other, and the clock after all of them. A fault ends the call
that it comes from and no other. -/
def perform (clock : ManualClock) :
    List ClockCall → List (Option (Except Fault Timestamp)) × ManualClock
  | [] => ([], clock)
  | c :: calls =>
    let (answer, moved) := clock.call c
    let (answers, last) := moved.perform calls
    (answer :: answers, last)

/-- Calls are answered part by part, and the later ones by the clock that the earlier ones left. -/
theorem perform_append (clock : ManualClock) (calls later : List ClockCall) :
    clock.perform (calls ++ later) =
      ((clock.perform calls).1 ++ ((clock.perform calls).2.perform later).1,
        ((clock.perform calls).2.perform later).2) := by
  induction calls generalizing clock with
  | nil => rfl
  | cons c calls ih => simp [perform, ih]

/-- What a clock answers to one of its calls, by what it showed when it came to that call. -/
theorem perform_append_cons (clock : ManualClock) (calls : List ClockCall) (c : ClockCall)
    (later : List ClockCall) :
    let before := (clock.perform calls).2
    clock.perform (calls ++ c :: later) =
      ((clock.perform calls).1 ++ (before.call c).1 :: ((before.call c).2.perform later).1,
        ((before.call c).2.perform later).2) := by
  rw [perform_append]
  rfl

/-- What a clock shows after calls. -/
theorem toInt_reading_perform (start : Timestamp) (calls : List ClockCall) :
    ((⟨start⟩ : ManualClock).perform calls).2.reading.toInt =
      ((lastSet start calls).toInt + advancedSince calls).bmod (2 ^ 64) := by
  -- from the last call backwards, since only the last setting counts
  induction calls using List.reverseRecOn with
  | nil => simp [perform, lastSet, advancedSince]
  | append_singleton calls c ih =>
    rw [perform_append]
    cases c with
    | set instant =>
      rw [lastSet_append_set, advancedSince_append_set]
      simp [perform, call, set]
    | advance seconds =>
      rw [lastSet_append_advance, advancedSince_append_advance]
      simp only [perform, call, advance, Prod.map, id, Int64.toInt_add, ih]
      rw [Int.bmod_add_bmod, Int.add_assoc]

/-- **What a clock shows and what its advances return.** After any calls a clock shows the instant
of the last setting, or its start, and all amounts since then, wrapped into the range of timestamps.
The next advance moves it to the wrapped sum in any case. It returns what the clock then shows
exactly when the sum is in range, and faults exactly when it is not; either way later calls answer
as they do when the clock is set to the wrapped sum instead. -/
theorem readings_and_returns (start : Timestamp) (calls : List ClockCall) (seconds : Timestamp)
    (later : List ClockCall) :
    let clock : ManualClock := ⟨start⟩
    let before := (clock.perform calls).2
    let exact := before.reading.toInt + seconds.toInt
    let returned := (before.advance seconds).1
    let moved := (before.advance seconds).2
    before.reading.toInt = ((lastSet start calls).toInt + advancedSince calls).bmod (2 ^ 64) ∧
    moved.reading.toInt = exact.bmod (2 ^ 64) ∧
    (returned = .ok moved.reading ↔ Timestamp.InRange exact) ∧
    (returned = .error .addOverflow ↔ ¬ Timestamp.InRange exact) ∧
    Fault.addOverflow.message = "attempt to add with overflow" ∧
    clock.perform (calls ++ .advance seconds :: later) =
      ((clock.perform calls).1 ++ some returned :: (moved.perform later).1,
        (moved.perform later).2) ∧
    clock.perform (calls ++ .set moved.reading :: later) =
      ((clock.perform calls).1 ++ none :: (moved.perform later).1, (moved.perform later).2) := by
  intro clock before exact returned moved
  have shown := toInt_reading_perform start calls
  have wrapped : moved.reading.toInt = exact.bmod (2 ^ 64) :=
    Int64.toInt_add before.reading seconds
  have returns := checkedAdd_eq_ok_iff before.reading seconds
  have faults := checkedAdd_eq_error_iff before.reading seconds
  have advanced := clock.perform_append_cons calls (.advance seconds) later
  have setInstead := clock.perform_append_cons calls (.set moved.reading) later
  exact ⟨shown, wrapped, returns, faults, rfl, advanced, setInstead⟩

/-- An advance from the last timestamp faults and leaves the clock at the first one. -/
example :
    (⟨9223372036854775807⟩ : ManualClock).perform [.advance 1, .advance 2, .set 5, .advance (-6)] =
      ([some (.error .addOverflow), some (.ok (-9223372036854775806)), none, some (.ok (-1))],
        ⟨-1⟩) := by
  decide

end ManualClock

end TaskReplicas
