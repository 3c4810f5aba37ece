import TaskReplicas.Sampling.ChaCha
import TaskReplicas.Stress.Environment
import TaskReplicas.Stress.Generator
import TaskReplicas.Stress.Pool
import TaskReplicas.Stress.Report

/-!
# Stress runs

A run draws rounds and checks each on the seeded replica. The rounds are checked by a pool of
workers, and what a run counts is the total of the outcomes that the pool collects; a run that may
keep no worker busy never ends. The program does one run as it is configured and four with a growing
number of tasks, and is content when no pair diverged. A fault stops the program where it is, and
what it has printed by then stays printed.
-/

set_option autoImplicit false

namespace TaskReplicas

open Sampling (WordSource ChaCha Key)

namespace Config

variable {σ : Type} [WordSource σ]

/-- The rounds of a run, in the order in which they are drawn. -/
def drawRounds (c : Config) (source : σ) : Except Fault (List Round) :=
  (Generator.start source).drawRounds c.numTasks.toNat c.pairsPerRound.toNat c.rounds.toNat

/-- The rounds of a run, in the order in which a pool collects them; `none` when the run never ends.
They are drawn as the pool asks for them. -/
def collectRounds (c : Config) (source : σ) (turns : Turns) : Except Fault (Option (List Round)) :=
  Pool.collect (Generator.drawRound c.numTasks.toNat c.pairsPerRound.toNat) c.concurrency.toNat
    turns c.rounds.toNat (Generator.start source) []

/-- The outcomes of the rounds of a run, in the order in which they are collected; `none` when the
run never ends. -/
def outcomes (c : Config) (source : σ) (turns : Turns) :
    Except Fault (Option (List Outcome)) := do
  let start := Replica.seeded c.numTasks.toNat
  let collected ← c.collectRounds source turns
  return collected.map fun rounds => rounds.map fun r => (checkRound start r.pairs).1

/-- What a run counts; `none` when the run never ends. -/
def run (c : Config) (source : σ) (turns : Turns) : Except Fault (Option Outcome) :=
  (c.outcomes source turns).map fun os => os.map Outcome.total

/-- The random words of a run: those of the seed, or of a key when there is none. -/
def source (c : Config) (entropy : Key) : ChaCha :=
  match c.seed with
  | some seed => .ofSeed seed
  | none => .ofKey entropy

end Config

/-- One thing that the program does. -/
inductive Act
  /-- Prints a title. -/
  | heading (title : String)
  /-- Does a run and prints its report. -/
  | run (c : Config)
  /-- Cannot go on. -/
  | stop (f : Fault)
deriving DecidableEq

/-- A title in a box. -/
def headingLines (title : String) : List String :=
  ["", "", boxTop, "║" ++ Text.flushLeft 60 title ++ "║", boxBottom]

/-- Eight times as many tasks, refused when they leave their word. -/
def eightfold (tasks : UInt64) : Except Fault UInt64 :=
  if tasks.toNat * 8 < 2 ^ 64 then .ok (tasks * 8) else .error .mulOverflow

/-- Runs with a number of tasks that grows eightfold from each to the next. The number for a run
after the last is computed as well. -/
def scalingFrom (base : Config) (tasks : UInt64) : Nat → List Act
  | 0 => []
  | steps + 1 =>
    .run { base with numTasks := tasks } ::
      match eightfold tasks with
      | .ok more => scalingFrom base more steps
      | .error f => [.stop f]

/-- Runs with one task, eight tasks and so on. -/
def scaling (base : Config) (steps : Nat) : List Act := scalingFrom base 1 steps

/-- What came of acts. -/
structure Performance where
  /-- The runs that were done. -/
  reports : List Report := []
  /-- The lines that were printed. -/
  lines : List String := []
  /-- The fault that stopped the acts, if one did. -/
  fault : Option Fault := none
  /-- Whether a run was begun that never ends. -/
  stalled : Bool := false

/-- The divergences of all runs. -/
def Performance.divergences (p : Performance) : Nat :=
  (p.reports.map (·.statistics.outcome.divergences)).sum

section Perform

variable {σ : Type} [WordSource σ]

/-- Does acts in order, given the random words of each run, how long each takes and in which turns
its workers are done; `k` runs were done before. A run that stops with a fault has printed what is
run, and so has one that never ends; nothing is done after it. -/
def performFrom (source : Nat → Config → σ) (elapsed : Nat → Duration) (turns : Nat → Turns)
    (k : Nat) : List Act → Performance
  | [] => {}
  | .heading title :: acts =>
    let rest := performFrom source elapsed turns k acts
    { rest with lines := headingLines title ++ rest.lines }
  | .run c :: acts =>
    match c.run (source k c) (turns k) with
    | .ok (some outcome) =>
      let report : Report := ⟨c, .ofRun c outcome (elapsed k)⟩
      let rest := performFrom source elapsed turns (k + 1) acts
      { rest with reports := report :: rest.reports, lines := report.lines ++ rest.lines }
    | .ok none => { lines := c.banner, stalled := true }
    | .error f => { lines := c.banner, fault := some f }
  | .stop f :: _ => { fault := some f }

/-- Does acts in order. -/
def perform (source : Nat → Config → σ) (elapsed : Nat → Duration) (acts : List Act)
    (turns : Nat → Turns := fun _ => .oldestFirst) : Performance :=
  performFrom source elapsed turns 0 acts

end Perform

/-- What the program does. -/
def programActs (c : Config) : List Act :=
  [.heading "            TRANSFORM STRESS TESTS", .run c,
    .heading "          SCALING ANALYSIS (tasks)"] ++ scaling c 4

/-- The exit code of the program after a fault. -/
def faultCode : UInt32 := 101

/-- The exit code of the program and the last lines that it prints, by the divergences of all its
runs. -/
def conclusion (divergences : Nat) : UInt32 × List String :=
  if 0 < divergences then (1, []) else (0, ["", "✓ All stress tests completed successfully!"])

/-- The exit code of the program and the lines of its titles, its boxes and its conclusion, given
the key of each run that has no seed, how long each run takes and in which turns its workers are
done. What it logs is left out, though it goes to the same output: the configuration with which it
starts, and the events of its runs. The environment cannot set how many workers may be busy, so no
run of the program waits for ever. -/
def program (e : Environment) (entropy : Nat → Key) (elapsed : Nat → Duration)
    (turns : Nat → Turns := fun _ => .oldestFirst) : UInt32 × List String :=
  let done := perform (fun k c => c.source (entropy k)) elapsed (programActs e.config) turns
  match done.fault with
  | some _ => (faultCode, done.lines)
  | none =>
    let (code, last) := conclusion done.divergences
    (code, done.lines ++ last)

end TaskReplicas
