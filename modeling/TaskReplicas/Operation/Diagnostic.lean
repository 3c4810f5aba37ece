import TaskReplicas.Decimal.Integer
import TaskReplicas.Operation.Basic
import TaskReplicas.Text.Literal

/-!
# Diagnostic text

Beside its canonical text an operation has one that names its fields and leaves no doubt about
where a field ends: strings are literals in it, and an absent value is told from any string.
-/

set_option autoImplicit false

namespace TaskReplicas

/-- A record with named fields. -/
def recordText (name : String) (fields : List (String × String)) : String :=
  name ++ " \x7b " ++ ", ".intercalate (fields.map fun (k, v) => k ++ ": " ++ v) ++ " \x7d"

/-- Something that may be absent. -/
def optionText {α : Type} (text : α → String) : Option α → String
  | some a => "Some(" ++ text a ++ ")"
  | none => "None"

/-- The fields of an update. -/
def Update.fieldTexts (u : Update) : List (String × String) :=
  [("task_id", Text.literal u.task), ("property", Text.literal u.property),
    ("value", optionText Text.literal u.value),
    ("timestamp", Decimal.integer u.timestamp.toInt)]

/-- What an update carries, field by field. -/
def Update.diagnostic (u : Update) : String := recordText "UpdateRef" u.fieldTexts

/-- An operation, field by field. -/
def Operation.diagnostic : Operation → String
  | .create t => recordText "Create" [("task_id", Text.literal t)]
  | .delete t => recordText "Delete" [("task_id", Text.literal t)]
  | .update t p v s => recordText "Update" (Update.mk t p v s).fieldTexts

/-- A field error, field by field. -/
def FieldError.diagnostic (e : FieldError) : String :=
  recordText "InvalidAccess" [("field", Text.literal e.field), ("kind", e.kind.name)]

end TaskReplicas
