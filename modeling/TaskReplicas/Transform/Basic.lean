import TaskReplicas.Event

/-!
# Transforming a pair

Two replicas have each made one operation. `transform` gives what is left of each once the other
has been applied: an operation that survives comes back as it was, and one that does not is absent.
Whichever of the two a replica applied first, applying what is left of the other brings it to the
same state, provided both operations were valid where they were made.
-/

set_option autoImplicit false

namespace TaskReplicas

/-- What is left of each of two operations once the other has been applied. -/
abbrev Transformed := Option Operation × Option Operation

/-- What a resolution leaves of two operations. -/
def Resolution.outputs (a b : Operation) : Resolution → Transformed
  | .keepBoth => (some a, some b)
  | .dropBoth => (none, none)
  | .keepFirst => (some a, none)
  | .keepSecond => (none, some b)

/-- How a resolution of two operations by a rule is logged. -/
def Resolution.event (a b : Operation) (rule : Rule) : Resolution → Event
  | .keepBoth => .independent a b rule
  | .dropBoth => .redundant a b rule
  | .keepFirst => .resolved a b rule
  | .keepSecond => .resolved b a rule

/-- What is left of each of two operations once the other has been applied. -/
def transform (a b : Operation) : Transformed :=
  (resolve a b).1.outputs a b

/-- What transforming two operations writes to the log. -/
def transformEvents (a b : Operation) : List Event :=
  [(resolve a b).1.event a b (resolve a b).2]

/-- Whether transforming two operations leaves both as they are. Nothing is logged. -/
def commutes (a b : Operation) : Bool :=
  (resolve a b).1 = .keepBoth

/-- `transform` where either side may already be gone: then the other is left as it is. -/
def transform? : Option Operation → Option Operation → Transformed
  | some a, some b => transform a b
  | a, b => (a, b)

end TaskReplicas
