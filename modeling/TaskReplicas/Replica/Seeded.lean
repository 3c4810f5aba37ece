import TaskReplicas.Decimal.Integer
import TaskReplicas.Replica.Basic

/-!
# The seeded replica

Tasks are numbered. The seeded replica for a number of tasks holds those with an even number, each
with a description, and none with an odd number: so an operation on a task is valid there when it
updates or deletes an even one, or creates or deletes an odd one.
-/

set_option autoImplicit false

namespace TaskReplicas

/-- The name of the task of a number: its decimal digits, at least four of them. -/
def taskId (i : Nat) : String := "task-" ++ Decimal.padded 4 i

/-- The even numbers below a bound, in order. -/
def evensBelow (n : Nat) : List Nat := (List.range n).filter (· % 2 = 0)

/-- The operations that bring one task with a description into being. -/
def seedLog (i : Nat) : List Operation :=
  [.create (taskId i), .update (taskId i) "description" (some "seed") 0]

/-- The replica that holds the even-numbered of `n` tasks, each with a description. -/
def Replica.seeded (n : Nat) : Replica := Replica.empty.run ((evensBelow n).flatMap seedLog)

end TaskReplicas
