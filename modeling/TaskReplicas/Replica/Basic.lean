import TaskReplicas.Operation.Basic
import Std.Data.ExtTreeMap
import Std.Data.ExtTreeMap.Lemmas

/-!
# Replicas

A replica holds tasks, and a task holds properties, each with a value. Both are maps in the order
of their keys, and two replicas are equal exactly when they hold the same: how they came about
leaves no trace. `Replica.apply` carries out one operation; it never fails, and an operation that
does not fit the replica (an update of a missing task, a create of a present one) changes nothing.

The view of a replica is `Replica.properties?`. Its two laws carry all reasoning about replicas:
`Replica.properties?_apply` says that an operation acts on its own task as `Operation.act` does and
on no other, and `Replica.ext_properties?` that nothing of a replica escapes the view.
-/

set_option autoImplicit false

namespace TaskReplicas

/-- The properties of a task, each with its value. -/
abbrev Properties := Std.ExtTreeMap String String

/-- A store of tasks. -/
structure Replica where
  /-- The tasks, each with its properties. -/
  tasks : Std.ExtTreeMap String Properties := ∅
deriving DecidableEq

/-- What an operation makes of its task, given the properties of the task when it is present. A
create leaves a present task alone, and an update a missing one. -/
def Operation.act : Operation → Option Properties → Option Properties
  | .create _, held => some (held.getD ∅)
  | .delete _, _ => none
  | .update _ p v _, held => held.map (·.alter p fun _ => v)

namespace Replica

/-- The replica that holds no task. -/
def empty : Replica := {}

instance : EmptyCollection Replica := ⟨empty⟩
instance : Inhabited Replica := ⟨empty⟩

/-- Whether a task is present. -/
def holds (s : Replica) (task : String) : Bool := s.tasks.contains task

/-- The properties of a task, when it is present. -/
def properties? (s : Replica) (task : String) : Option Properties := s.tasks[task]?

/-- The value of a property of a task, when both are present. -/
def value? (s : Replica) (task property : String) : Option String :=
  (s.properties? task).bind (·[property]?)

/-- Carries out one operation. -/
def apply (s : Replica) (op : Operation) : Replica := ⟨s.tasks.alter op.task op.act⟩

/-- Carries out an operation that may be gone, in which case nothing happens. -/
def applyOption (s : Replica) : Option Operation → Replica
  | some op => s.apply op
  | none => s

/-- Carries out a log of operations in order. -/
def run (s : Replica) (log : List Operation) : Replica := log.foldl apply s

/-- Whether an operation fits a replica: a create is of a missing task, an update of a present
one, and a delete of any. -/
def Accepts (s : Replica) : Operation → Prop
  | .create t => s.holds t = false
  | .delete _ => True
  | .update t _ _ _ => s.holds t = true

instance (s : Replica) : (op : Operation) → Decidable (s.Accepts op)
  | .create t => inferInstanceAs (Decidable (s.holds t = false))
  | .delete _ => inferInstanceAs (Decidable True)
  | .update t _ _ _ => inferInstanceAs (Decidable (s.holds t = true))

/-- The tasks and their properties as lists, in the order of their keys. -/
def toList (s : Replica) : List (String × List (String × String)) :=
  s.tasks.toList.map fun (task, properties) => (task, properties.toList)

/-- The empty replica holds no task. -/
theorem properties?_empty (t : String) : empty.properties? t = none := by
  simp [empty, properties?]

/-- An operation acts on its own task and on no other. -/
theorem properties?_apply (s : Replica) (op : Operation) (t : String) :
    (s.apply op).properties? t =
      if op.task = t then op.act (s.properties? t) else s.properties? t := by
  simp only [apply, properties?, Std.ExtTreeMap.getElem?_alter, Std.compare_eq_iff_eq]
  split
  · next h => rw [h]
  · rfl

/-- A task is there just in case its properties are. -/
theorem holds_eq_isSome (s : Replica) (t : String) : s.holds t = (s.properties? t).isSome :=
  Std.ExtTreeMap.contains_eq_isSome_getElem?

/-- Replicas that hold the same tasks with the same properties are equal. -/
theorem ext_properties? {s s' : Replica} (h : ∀ t, s.properties? t = s'.properties? t) :
    s = s' := by
  cases s
  cases s'
  exact congrArg mk (Std.ExtTreeMap.ext_getElem? h)

end Replica

end TaskReplicas
