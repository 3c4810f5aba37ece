/-!
# Defects

A text that is not JSON is found out at one place. Either the text ends there although more was
needed, or what stands there cannot stand there. `Defect` keeps the two apart: a text that is only
truncated may still become a message when the rest of it arrives.
-/

set_option autoImplicit false

namespace TaskReplicas.Json

/-- What is wrong with a text that is not JSON. -/
inductive Defect
  /-- The text ends where more was needed. -/
  | truncated
  /-- What stands there cannot stand there. -/
  | malformed
deriving DecidableEq

/-- The defect of a place where something else was needed than what is left of the text: nothing
being left is a truncation. -/
def Defect.at : List Char → Defect
  | [] => .truncated
  | _ :: _ => .malformed

end TaskReplicas.Json
