import TaskReplicas.Operation.Basic

/-!
# The rules of conflict

Two operations made without sight of each other meet. `resolve` says which of them survive and
names the rule that decided. Operations on different tasks, and updates of different properties,
leave each other alone. On one task a create wins over a delete, a delete over an update and an
update over a create. Of two updates of one property the later wins, equal values drop both, and a
tie goes to the first operation, which is the only case in which the order of the two matters.
-/

set_option autoImplicit false

namespace TaskReplicas

/-- Which of two operations survive. -/
inductive Resolution
  | keepBoth
  | dropBoth
  | keepFirst
  | keepSecond
deriving DecidableEq

/-- The rule that decided a pair. -/
inductive Rule
  /-- The operations are about different tasks. -/
  | differentTasks
  /-- Two creates, or two deletes, of one task. -/
  | sameKind
  /-- A create wins over a delete of its task. -/
  | createOverDelete
  /-- An update wins over a create of its task. -/
  | updateOverCreate
  /-- A delete wins over an update of its task. -/
  | deleteOverUpdate
  /-- The updates change different properties. -/
  | differentProperties
  /-- The updates leave the property with the same value. -/
  | sameValue
  /-- Of two updates of one property the later wins. -/
  | laterTimestamp
  /-- Of two simultaneous updates of one property the first wins. -/
  | timestampTie
deriving DecidableEq

/-- The name of a rule in the log. -/
def Rule.name : Rule → String
  | .differentTasks => "DifferentTasks"
  | .sameKind => "SameKind"
  | .createOverDelete => "CreateOverDelete"
  | .updateOverCreate => "UpdateOverCreate"
  | .deleteOverUpdate => "DeleteOverUpdate"
  | .differentProperties => "DifferentProperties"
  | .sameValue => "SameValue"
  | .laterTimestamp => "LaterTimestamp"
  | .timestampTie => "TimestampTie"

/-- Decides two updates of one property. -/
def resolveValues (v₁ v₂ : Option String) (s₁ s₂ : Timestamp) : Resolution × Rule :=
  if v₁ = v₂ then (.dropBoth, .sameValue)
  else if s₁ < s₂ then (.keepSecond, .laterTimestamp)
  else if s₂ < s₁ then (.keepFirst, .laterTimestamp)
  else (.keepFirst, .timestampTie)

/-- Decides two operations on one task. -/
def resolveOnTask : Operation → Operation → Resolution × Rule
  | .create _, .create _ => (.dropBoth, .sameKind)
  | .delete _, .delete _ => (.dropBoth, .sameKind)
  | .create _, .delete _ => (.keepFirst, .createOverDelete)
  | .delete _, .create _ => (.keepSecond, .createOverDelete)
  | .create _, .update .. => (.keepSecond, .updateOverCreate)
  | .update .., .create _ => (.keepFirst, .updateOverCreate)
  | .delete _, .update .. => (.keepFirst, .deleteOverUpdate)
  | .update .., .delete _ => (.keepSecond, .deleteOverUpdate)
  | .update _ p₁ v₁ s₁, .update _ p₂ v₂ s₂ =>
    if p₁ = p₂ then resolveValues v₁ v₂ s₁ s₂ else (.keepBoth, .differentProperties)

/-- Decides which of two operations survive, and by which rule. -/
def resolve (a b : Operation) : Resolution × Rule :=
  if a.task = b.task then resolveOnTask a b else (.keepBoth, .differentTasks)

end TaskReplicas
