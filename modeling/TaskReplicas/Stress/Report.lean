import TaskReplicas.Decimal.Fixed
import TaskReplicas.Fault
import TaskReplicas.Stress.Check
import TaskReplicas.Stress.Config
import TaskReplicas.Text.Column

/-!
# Reports

A run is reported in boxes of 62 characters: one that says what is run, and one with what was
counted, how long it took and how fast that was. Numbers stand at the right of their rows.
-/

set_option autoImplicit false

namespace TaskReplicas

/-- How long something took: whole seconds, and the billionths of a second beyond them. -/
structure Duration where
  /-- The whole seconds. -/
  seconds : UInt64
  /-- The billionths of a second beyond them. -/
  nanos : Nat
  nanos_lt : nanos < 10 ^ 9
deriving DecidableEq

namespace Duration

/-- No time at all. -/
def zero : Duration := ⟨0, 0, by decide⟩

/-- So many seconds and billionths of a second; whole seconds among the billionths are carried. -/
def ofParts (seconds : UInt64) (nanos : Nat) : Except Fault Duration :=
  if seconds.toNat + nanos / 10 ^ 9 < 2 ^ 64 then
    .ok ⟨seconds + (nanos / 10 ^ 9).toUInt64, nanos % 10 ^ 9, Nat.mod_lt _ (by decide)⟩
  else .error .durationOverflow

/-- A duration in seconds, as a double. -/
def toSeconds (d : Duration) : Float := d.seconds.toFloat + d.nanos.toUInt64.toFloat / 1e9

end Duration

/-- What is known of a run when it is over. -/
structure Statistics where
  /-- How many tasks there were. -/
  numTasks : Nat
  /-- What was counted. -/
  outcome : Outcome
  /-- How long it took. -/
  totalTime : Duration
  /-- The pairs that were checked in a second. -/
  pairsPerSecond : Float

/-- The upper edge of a box. -/
def boxTop : String := "╔════════════════════════════════════════════════════════════╗"

/-- The line below the title of a box. -/
def boxRule : String := "╠════════════════════════════════════════════════════════════╣"

/-- The lower edge of a box. -/
def boxBottom : String := "╚════════════════════════════════════════════════════════════╝"

/-- A row of a box with a text at its left. -/
def bannerRow (text : String) : String := "║  " ++ Text.flushLeft 57 text ++ " ║"

/-- The label of a row of numbers. -/
def rowLabel (label : String) : String := "║  " ++ Text.flushLeft 27 label

/-- A row of a box with a label and a number. -/
def countRow (label : String) (n : Nat) : String :=
  rowLabel label ++ Text.flushRight 30 (Decimal.natural n) ++ " ║"

namespace Statistics

/-- What is known of a run that counted this and took so long. -/
def ofRun (c : Config) (outcome : Outcome) (totalTime : Duration) : Statistics :=
  ⟨c.numTasks.toNat, outcome, totalTime, outcome.pairs.toFloat / totalTime.toSeconds⟩

/-- The rows of numbers that are counts. -/
def countRows (s : Statistics) : List String :=
  [countRow "Number of Tasks:" s.numTasks, countRow "Transformed Pairs:" s.outcome.pairs,
    countRow "Passed Through:" s.outcome.passedThrough, countRow "Operations Kept:" s.outcome.kept,
    countRow "Operations Suppressed:" s.outcome.suppressed,
    countRow "Divergences:" s.outcome.divergences]

/-- The row with the time that a run took, in seconds with three decimal places. -/
def timeRow (s : Statistics) : String :=
  rowLabel "Total Time:" ++ Text.flushRight 29 (Decimal.fixed 3 s.totalTime.toSeconds.toBits)
    ++ "s ║"

/-- The row with the speed of a run, in whole pairs. -/
def speedRow (s : Statistics) : String :=
  rowLabel "Pairs/Second:" ++ Text.flushRight 30 (Decimal.fixed 0 s.pairsPerSecond.toBits) ++ " ║"

/-- The box with the numbers of a run. -/
def lines (s : Statistics) : List String :=
  ["", boxTop, "║              Stress Test Statistics                         ║", boxRule]
    ++ s.countRows ++ [s.timeRow, s.speedRow, boxBottom]

end Statistics

/-- What a run is about, on one line. -/
def Config.summary (c : Config) : String :=
  "Tasks: " ++ Decimal.natural c.numTasks.toNat ++ " | Pairs/Round: "
    ++ Decimal.natural c.pairsPerRound.toNat ++ " | Rounds: " ++ Decimal.natural c.rounds.toNat

/-- The box that says what is run. -/
def Config.banner (c : Config) : List String :=
  ["", boxTop, "║        Transform Convergence Stress Test                   ║",
    bannerRow c.summary, boxBottom]

/-- A run: what was run, and what is known of it. -/
structure Report where
  /-- What was run. -/
  config : Config
  /-- What is known of it. -/
  statistics : Statistics

/-- The boxes of a run. -/
def Report.lines (r : Report) : List String := r.config.banner ++ r.statistics.lines

end TaskReplicas
