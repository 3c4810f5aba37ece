import TaskReplicas.Operation.Mismatch

/-!
# Fields of a message

What a message says beside its kind is kept until its last bracket closes, and only then looked at.
In an object the fields go by their names and may come in any order; names that an operation of
the kind does not have are skipped, however often they come. In a list the fields go by their
places and all must be there.
-/

set_option autoImplicit false

namespace TaskReplicas

open Json (Outline)

/-- The kind that a value names. -/
def readKind : Outline → Except Mismatch Kind
  | .string s =>
    match Kind.ofName? s with
    | some k => .ok k
    | none => .error (.unknownKind s)
  | found => .error (.wrongType found .kindName)

/-- The string that a value is. -/
def readText : Outline → Except Mismatch String
  | .string s => .ok s
  | found => .error (.wrongType found .text)

/-- The string that a value is, absent where it is `null`. -/
def readOptionalText : Outline → Except Mismatch (Option String)
  | .null => .ok none
  | found => (readText found).map some

/-- The timestamp that a value is. -/
def readTimestamp : Outline → Except Mismatch Timestamp
  | .number (.integer n) => if n < 2 ^ 63 then .ok (Int64.ofInt n) else .error (.outOfRange n)
  | found => .error (.wrongType found .timestamp)

/-- The fields of a message as far as they are known. -/
structure Fields where
  /-- The task. -/
  task : Option String := none
  /-- The property. -/
  property : Option String := none
  /-- The value, which may be given as absent. -/
  value : Option (Option String) := none
  /-- The timestamp. -/
  timestamp : Option Timestamp := none
deriving DecidableEq

namespace Fields

/-- Fills a field that is not known yet. -/
def fill {α : Type} (name : String) (known : Option α) (read : Except Mismatch α) :
    Except Mismatch (Option α) :=
  match known with
  | some _ => .error (.duplicateField name)
  | none => read.map some

/-- Takes in an entry of an object for an operation of a kind. -/
def add (kind : Kind) (f : Fields) : String × Outline → Except Mismatch Fields
  | (name, found) =>
    if name ∉ kind.fieldNames then .ok f
    else if name = "task_id" then
      (fill name f.task (readText found)).map ({ f with task := · })
    else if name = "property" then
      (fill name f.property (readText found)).map ({ f with property := · })
    else if name = "value" then
      (fill name f.value (readOptionalText found)).map ({ f with value := · })
    else (fill name f.timestamp (readTimestamp found)).map ({ f with timestamp := · })

/-- A field that must be there. -/
def require {α : Type} (name : String) : Option α → Except Mismatch α
  | some a => .ok a
  | none => .error (.missingField name)

/-- The operation of a kind with these fields. -/
def toOperation (kind : Kind) (f : Fields) : Except Mismatch Operation := do
  let task ← require "task_id" f.task
  match kind with
  | .create => return .create task
  | .delete => return .delete task
  | .update =>
    let property ← require "property" f.property
    let timestamp ← require "timestamp" f.timestamp
    return .update task property (f.value.getD none) timestamp

end Fields

/-- The operation of a kind that the entries of an object describe. -/
def Operation.ofEntries (kind : Kind) (entries : List (String × Outline)) :
    Except Mismatch Operation := do
  let fields ← entries.foldlM (Fields.add kind) {}
  fields.toOperation kind

/-- Takes the next of a row of items, each read in its own way. -/
def takeItem {α : Type} (kind : Kind) (place : Nat) (read : Outline → Except Mismatch α)
    (items : List Outline) : Except Mismatch α :=
  match items[place]? with
  | some found => read found
  | none => .error (.tooFew place kind)

/-- The operation of a kind that the items of a list describe. -/
def Operation.ofItems (kind : Kind) (items : List Outline) : Except Mismatch Operation := do
  let task ← takeItem kind 0 readText items
  let op : Operation ← match kind with
    | .create => pure (.create task)
    | .delete => pure (.delete task)
    | .update => do
      let property ← takeItem kind 1 readText items
      let value ← takeItem kind 2 readOptionalText items
      let timestamp ← takeItem kind 3 readTimestamp items
      pure (.update task property value timestamp)
  if items.length ≤ kind.fieldNames.length then return op
  else throw (.tooMany items.length kind)

end TaskReplicas
