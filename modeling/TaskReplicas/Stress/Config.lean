import TaskReplicas.Operation.Diagnostic

/-!
# Configuration

A stress run is configured by settings, each of one field; a later setting of a field replaces an
earlier one. There is always at least one task and one worker: a setting of none is taken as one.
-/

set_option autoImplicit false

namespace TaskReplicas

/-- What a stress run does. -/
structure Config where
  /-- How many tasks there are; those with an even number exist at the start. -/
  numTasks : UInt64 := 16
  /-- How many pairs of operations a round has. -/
  pairsPerRound : UInt64 := 1000
  /-- How many rounds there are. -/
  rounds : UInt64 := 50
  /-- How many rounds are checked at the same time. -/
  concurrency : UInt64 := 8
  /-- The seed of the random operations; without one each run has other operations. -/
  seed : Option UInt64 := none
deriving DecidableEq

/-- A value for one field of a configuration. -/
inductive Setting
  | numTasks (n : UInt64)
  | pairsPerRound (n : UInt64)
  | rounds (n : UInt64)
  | concurrency (n : UInt64)
  | seed (n : UInt64)
deriving DecidableEq

namespace Config

/-- The configuration with one field set. -/
def set (c : Config) : Setting → Config
  | .numTasks n => { c with numTasks := max n 1 }
  | .pairsPerRound n => { c with pairsPerRound := n }
  | .rounds n => { c with rounds := n }
  | .concurrency n => { c with concurrency := max n 1 }
  | .seed n => { c with seed := some n }

/-- The default configuration with its fields set one after the other. -/
def ofSettings (settings : List Setting) : Config := settings.foldl set {}

/-- A configuration, field by field. -/
def diagnostic (c : Config) : String :=
  let word (n : UInt64) := Decimal.natural n.toNat
  recordText "StressConfig" [("num_tasks", word c.numTasks),
    ("pairs_per_round", word c.pairsPerRound), ("rounds", word c.rounds),
    ("concurrency", word c.concurrency), ("seed", optionText word c.seed)]

end Config

end TaskReplicas
