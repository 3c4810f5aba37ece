import TaskReplicas.Stress.Run

/-!
# The command line

The program reads its configuration from the environment, does its runs one after the other and
prints each report as it comes. Its exit code is 0 when no pair diverged, 1 when one did, and 101
after a fault.
-/

set_option autoImplicit false

namespace TaskReplicas

open Sampling (Key)

/-- The value of a variable of the environment. -/
def bytesOf (name : String) : IO (Option (List UInt8)) := do
  return (← IO.getEnv name).map (·.toUTF8.toList)

/-- The variables of the environment that configure the program. -/
def environment : IO Environment := do
  return { tasks := ← bytesOf "TASKOT_TASKS", pairs := ← bytesOf "TASKOT_PAIRS"
           rounds := ← bytesOf "TASKOT_ROUNDS", seed := ← bytesOf "TASKOT_SEED" }

/-- A key that nobody can guess. -/
def randomKey : IO Key := do
  let bytes ← IO.getRandomBytes 32
  let byte (i : Nat) : UInt32 := (bytes.toList.getD i 0).toUInt32
  return Vector.ofFn fun i =>
    byte (4 * i) ||| byte (4 * i + 1) <<< 8 ||| byte (4 * i + 2) <<< 16 ||| byte (4 * i + 3) <<< 24

/-- The time since a reading of the clock in billionths of a second. -/
def elapsedSince (begun : Nat) : IO Duration := do
  match Duration.ofParts 0 ((← IO.monoNanosNow) - begun) with
  | .ok d => return d
  | .error _ => return .zero

/-- Prints lines. -/
def say (lines : List String) : IO Unit := lines.forM IO.println

/-- Does acts in order, printing as it goes. Gives the exit code. -/
def act (divergences : Nat) : List Act → IO UInt32
  | [] => do
    let (code, last) := conclusion divergences
    say last
    return code
  | .heading title :: acts => do
    say (headingLines title)
    act divergences acts
  | .run c :: acts => do
    say c.banner
    let source := c.source (← randomKey)
    let begun ← IO.monoNanosNow
    match c.run source .oldestFirst with
    | .ok (some outcome) =>
      say (Statistics.ofRun c outcome (← elapsedSince begun)).lines
      act (divergences + outcome.divergences) acts
    | .ok none => wait
    | .error f => fail f
  | .stop f :: _ => fail f
where
  /-- Reports a fault. -/
  fail (f : Fault) : IO UInt32 := do
    IO.eprintln f.message
    return faultCode
  /-- Waits for what never comes. -/
  wait : IO UInt32 := do
    repeat IO.sleep 1000
    return faultCode

end TaskReplicas

def main : IO UInt32 := do
  TaskReplicas.act 0 (TaskReplicas.programActs (← TaskReplicas.environment).config)
