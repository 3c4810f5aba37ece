import TaskReplicas.Replica.Basic
import TaskReplicas.Transform.Basic

/-!
# Checking a round

Every pair of a round is tried out on copies of one replica: one copy takes the first operation and
then what is left of the second, the other the second and then what is left of the first. Copies
that differ at the end are a divergence. The outcome of a round counts pairs, what became of their
operations, and divergences; outcomes add up, in any order.
-/

set_option autoImplicit false

namespace TaskReplicas

/-- What was counted while pairs were checked. -/
structure Outcome where
  /-- The pairs. -/
  pairs : Nat := 0
  /-- The pairs whose operations leave each other alone. -/
  passedThrough : Nat := 0
  /-- The operations that survived. -/
  kept : Nat := 0
  /-- The operations that did not. -/
  suppressed : Nat := 0
  /-- The pairs after which the copies differed. -/
  divergences : Nat := 0
deriving DecidableEq

namespace Outcome

instance : Add Outcome where
  add a b := ⟨a.pairs + b.pairs, a.passedThrough + b.passedThrough, a.kept + b.kept,
    a.suppressed + b.suppressed, a.divergences + b.divergences⟩

/-- All outcomes together. -/
def total (outcomes : List Outcome) : Outcome := outcomes.foldl (· + ·) {}

end Outcome

/-- The replica that took `a` and then what is left of `b`. -/
def Replica.firstThenRest (start : Replica) (a b : Operation) : Replica :=
  (start.apply a).applyOption (transform a b).2

/-- The replica that took `b` and then what is left of `a`. -/
def Replica.secondThenRest (start : Replica) (a b : Operation) : Replica :=
  (start.apply b).applyOption (transform a b).1

/-- Whether two operations leave copies of a replica different. -/
def Replica.diverges (start : Replica) (a b : Operation) : Bool :=
  start.firstThenRest a b ≠ start.secondThenRest a b

/-- The survivors among the outputs of a pair. -/
def survivors (t : Transformed) : Nat := t.1.isSome.toNat + t.2.isSome.toNat

/-- Checks a pair on copies of a replica: what is counted, and what is logged. -/
def checkPair (start : Replica) (pair : Operation × Operation) : Outcome × List Event :=
  let (a, b) := pair
  let survived := survivors (transform a b)
  let diverged := start.diverges a b
  ({ pairs := 1, passedThrough := (commutes a b).toNat, kept := survived
     suppressed := 2 - survived, divergences := diverged.toNat },
    transformEvents a b ++ if diverged then [.diverged a b] else [])

/-- Checks the pairs of a round, each on untouched copies of a replica. -/
def checkRound (start : Replica) (pairs : List (Operation × Operation)) : Outcome × List Event :=
  let checked := pairs.map (checkPair start)
  (Outcome.total (checked.map Prod.fst), checked.flatMap Prod.snd)

end TaskReplicas
