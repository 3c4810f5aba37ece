import TaskReplicas.Operation.Text
import TaskReplicas.Transform.Rule

/-!
# Events

What happens is logged as an event. An event is kept as the data that it is about; its level, its
message and its fields follow from that, so an event cannot name one operation and mean another.
-/

set_option autoImplicit false

namespace TaskReplicas

/-- How much an event matters. -/
inductive Level
  | trace
  | debug
  | warn
deriving DecidableEq

/-- The name of a level in the log. -/
def Level.name : Level → String
  | .trace => "TRACE"
  | .debug => "DEBUG"
  | .warn => "WARN"

/-- Something that is worth a line in the log. -/
inductive Event
  /-- Two operations leave each other alone. -/
  | independent (first second : Operation) (rule : Rule)
  /-- Two operations make each other needless. -/
  | redundant (first second : Operation) (rule : Rule)
  /-- One of two operations gave way to the other. -/
  | resolved (kept dropped : Operation) (rule : Rule)
  /-- Two replicas differ after a pair of operations. -/
  | diverged (first second : Operation)
  /-- A round of pairs was drawn, and the clock then showed `now`. -/
  | roundDrawn (pairs : Nat) (now : Timestamp)
deriving DecidableEq

/-- The label of a pair of operations. -/
def pairLabel (first second : Operation) : String :=
  "(" ++ first.text ++ ", " ++ second.text ++ ")"

namespace Event

/-- How much an event matters. -/
def level : Event → Level
  | independent .. => .trace
  | redundant .. => .debug
  | resolved .. => .debug
  | diverged .. => .warn
  | roundDrawn .. => .debug

/-- What an event says. -/
def message : Event → String
  | independent .. => "operations are independent"
  | redundant .. => "operations are redundant, dropping both"
  | resolved .. => "operation conflict resolved"
  | diverged .. => "replicas diverged after transform"
  | roundDrawn .. => "generated round"

/-- The named values of an event, in the order in which they are logged. -/
def fields : Event → List (String × String)
  | independent a b r => [("op1", a.text), ("op2", b.text), ("rule", r.name)]
  | redundant a b r => [("op1", a.text), ("op2", b.text), ("rule", r.name)]
  | resolved kept dropped r => [("kept", kept.text), ("dropped", dropped.text), ("rule", r.name)]
  | diverged a b => [("pair", pairLabel a b)]
  | roundDrawn pairs now =>
    [("pairs", Decimal.natural pairs), ("now", Decimal.integer now.toInt)]

end Event

end TaskReplicas
