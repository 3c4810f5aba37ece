import TaskReplicas.Decimal.Integer
import TaskReplicas.Operation.Basic

/-!
# Canonical text

Log lines and labels name an operation by one line of text. Nothing in it is escaped, and an absent
value reads `null` between the quotes.
-/

set_option autoImplicit false

namespace TaskReplicas.Operation

/-- The line that names an operation. -/
def text : Operation → String
  | create t => "Create(" ++ t ++ ")"
  | delete t => "Delete(" ++ t ++ ")"
  | update t p v s =>
    "Update(" ++ t ++ ", \"" ++ p ++ "\", \"" ++ v.getD "null" ++ "\", "
      ++ Decimal.integer s.toInt ++ ")"

end TaskReplicas.Operation
