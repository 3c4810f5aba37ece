import TaskReplicas.Stress.Config

/-!
# Settings from the environment

Four variables of the environment may set a field each. A value counts when it is a number of at
most 64 bits in decimal digits, with zeros and one plus in front of it or not; any other value is
as good as none.
-/

set_option autoImplicit false

namespace TaskReplicas

/-- The number that follows from a number and further digits, if all are digits and it stays below
`2 ^ 64`. -/
def unsignedFrom (before : Nat) : List UInt8 → Option Nat
  | [] => some before
  | b :: bs =>
    if 48 ≤ b ∧ b ≤ 57 then
      let next := before * 10 + (b.toNat - 48)
      if next < 2 ^ 64 then unsignedFrom next bs else none
    else none

/-- The number that bytes name: at least one digit, behind one plus or none. -/
def unsigned? (bytes : List UInt8) : Option UInt64 :=
  let ds := if bytes.head? = some 43 then bytes.tail else bytes
  if ds.isEmpty then none else (unsignedFrom 0 ds).map UInt64.ofNat

/-- The values of the variables, as bytes; absent where one is not set. -/
structure Environment where
  /-- The value of `TASKOT_TASKS`. -/
  tasks : Option (List UInt8) := none
  /-- The value of `TASKOT_PAIRS`. -/
  pairs : Option (List UInt8) := none
  /-- The value of `TASKOT_ROUNDS`. -/
  rounds : Option (List UInt8) := none
  /-- The value of `TASKOT_SEED`. -/
  seed : Option (List UInt8) := none
deriving DecidableEq

namespace Environment

/-- The setting that the value of a variable makes, if it makes one. -/
def setting? (make : UInt64 → Setting) (value : Option (List UInt8)) : Option Setting :=
  (value.bind unsigned?).map make

/-- The settings that the variables make. -/
def settings (e : Environment) : List Setting :=
  [setting? .numTasks e.tasks, setting? .pairsPerRound e.pairs, setting? .rounds e.rounds,
    setting? .seed e.seed].filterMap id

/-- The configuration that the variables make. -/
def config (e : Environment) : Config := .ofSettings e.settings

end Environment

end TaskReplicas
