import TaskReplicas.Clock
import TaskReplicas.Event
import TaskReplicas.Sampling.Bounded
import TaskReplicas.Replica.Seeded

/-!
# Drawing operations

Pairs of operations are drawn at random, each valid on the seeded replica: an odd-numbered task is
created or deleted, an even-numbered one updated or deleted. The clock moves on by a second before
most operations and stands still before the others, so that equal timestamps come up. One stream
and one clock serve all rounds of a run, and how the pairs are cut into rounds changes none of them.
-/

set_option autoImplicit false

namespace TaskReplicas

open Sampling (WordSource below32 below64 chance)

/-- The properties that are updated. -/
def propertyPool : List String := ["description", "status", "due", "project", "tag.next"]

/-- The values that they are given. -/
def valuePool : List String := ["a", "b", "c", "pending", "completed"]

/-- A chance of seven tenths, as a double gives it. -/
def sevenTenths : Nat := 12912720851596685312

/-- A chance of a half. -/
def oneHalf : Nat := 2 ^ 63

/-- A chance of a fifth, as a double gives it. -/
def oneFifth : Nat := 3689348814741910528

/-- A chance of a tenth, as a double gives it. -/
def oneTenth : Nat := 1844674407370955264

/-- What operations are drawn from. -/
structure Generator (σ : Type) where
  /-- The random words. -/
  source : σ
  /-- The clock that stamps updates. -/
  clock : ManualClock

namespace Generator

variable {σ : Type}

/-- The start of a run. -/
def start (source : σ) : Generator σ := ⟨source, ⟨1000000⟩⟩

variable [WordSource σ]

/-- Draws the number of a task; there has to be one. -/
def drawTask (numTasks : Nat) (g : Generator σ) : Except Fault (Nat × Generator σ) :=
  if numTasks = 0 then .error .emptyRange
  else
    let (i, source) := below64 numTasks g.source
    .ok (i, { g with source })

/-- Moves the clock on by a second, or leaves it alone. -/
def tick (g : Generator σ) : Except Fault (Generator σ) :=
  let (moves, source) := chance sevenTenths g.source
  if moves then
    let (returned, clock) := g.clock.advance 1
    returned.map fun _ => ⟨source, clock⟩
  else .ok { g with source }

/-- Draws an entry of a pool. -/
def choose (pool : List String) (default : String) (source : σ) : String × σ :=
  let (i, source) := below32 pool.length source
  (pool[i]?.getD default, source)

/-- Draws a create or a delete of a task that is missing at the start. -/
def drawForMissing (task : String) (source : σ) : Operation × σ :=
  let (creates, source) := chance oneHalf source
  (if creates then .create task else .delete task, source)

/-- Draws an update of a task, by a clock. -/
def drawUpdate (task : String) (clock : ManualClock) (source : σ) : Operation × σ :=
  let (property, source) := choose propertyPool "description" source
  let (clears, source) := chance oneFifth source
  if clears then (.clear task property clock, source)
  else
    let (value, source) := choose valuePool "a" source
    (.set task property value clock, source)

/-- Draws a delete or an update of a task that is present at the start. -/
def drawForPresent (task : String) (clock : ManualClock) (source : σ) : Operation × σ :=
  let (deletes, source) := chance oneTenth source
  if deletes then (.delete task, source) else drawUpdate task clock source

/-- Draws an operation that is valid on the seeded replica. -/
def drawOperation (numTasks : Nat) (g : Generator σ) :
    Except Fault (Operation × Generator σ) := do
  let (i, g) ← g.drawTask numTasks
  let g ← g.tick
  let (op, source) :=
    if i % 2 = 1 then drawForMissing (taskId i) g.source
    else drawForPresent (taskId i) g.clock g.source
  return (op, { g with source })

/-- Draws two operations. -/
def drawPair (numTasks : Nat) (g : Generator σ) :
    Except Fault ((Operation × Operation) × Generator σ) := do
  let (a, g) ← g.drawOperation numTasks
  let (b, g) ← g.drawOperation numTasks
  return ((a, b), g)

/-- Draws so many pairs, after those drawn before, the last of them first. -/
def drawPairsAfter (numTasks : Nat) (before : List (Operation × Operation)) :
    Nat → Generator σ → Except Fault (List (Operation × Operation) × Generator σ)
  | 0, g => .ok (before.reverse, g)
  | n + 1, g =>
    match g.drawPair numTasks with
    | .ok (pair, g) => drawPairsAfter numTasks (pair :: before) n g
    | .error f => .error f

/-- Draws so many pairs. -/
def drawPairs (numTasks n : Nat) (g : Generator σ) :
    Except Fault (List (Operation × Operation) × Generator σ) :=
  drawPairsAfter numTasks [] n g

end Generator

/-- A round of pairs. -/
structure Round where
  /-- The pairs, as they were drawn. -/
  pairs : List (Operation × Operation)
  /-- What the clock showed when all were drawn. -/
  drawnAt : Timestamp
deriving DecidableEq

/-- How a round is logged. -/
def Round.event (r : Round) : Event := .roundDrawn r.pairs.length r.drawnAt

/-- The bytes that a pair takes up in a round. -/
def pairSize : Nat := 160

namespace Generator

variable {σ : Type} [WordSource σ]

/-- Draws a round. Its pairs have to fit into an address space. -/
def drawRound (numTasks pairs : Nat) (g : Generator σ) : Except Fault (Round × Generator σ) := do
  if 2 ^ 63 ≤ pairs * pairSize then throw .capacityOverflow
  let (drawn, g) ← g.drawPairs numTasks pairs
  return (⟨drawn, g.clock.reading⟩, g)

/-- Draws so many rounds. -/
def drawRounds (numTasks pairs : Nat) : Nat → Generator σ → Except Fault (List Round)
  | 0, _ => .ok []
  | n + 1, g => do
    let (round, g) ← g.drawRound numTasks pairs
    let rest ← drawRounds numTasks pairs n g
    return round :: rest

end Generator

end TaskReplicas
