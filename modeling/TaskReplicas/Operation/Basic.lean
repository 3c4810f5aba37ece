import TaskReplicas.Clock

/-!
# Operations

An operation is one edit of a task: it brings a task into being, removes it with all it holds, or
sets or clears one property. Only an update carries a property, a value and a timestamp; asking a
create or a delete for one of them is the only error there is (`FieldError`).
-/

set_option autoImplicit false

namespace TaskReplicas

/-- The kind of an operation, without what it carries. -/
inductive Kind
  | create
  | delete
  | update
deriving DecidableEq

/-- The name of a kind, as it is printed and exchanged. -/
def Kind.name : Kind → String
  | .create => "Create"
  | .delete => "Delete"
  | .update => "Update"

/-- All kinds, in the order in which they are listed. -/
def Kind.all : List Kind := [.create, .delete, .update]

/-- The kind of that name. -/
def Kind.ofName? (name : String) : Option Kind := Kind.all.find? (·.name == name)

/-- One edit of a task. -/
inductive Operation
  /-- Brings a task without properties into being. -/
  | create (task : String)
  /-- Removes a task and all of its properties. -/
  | delete (task : String)
  /-- Sets a property of a task, or clears it where the value is absent. -/
  | update (task property : String) (value : Option String) (timestamp : Timestamp)
deriving DecidableEq

/-- What an update carries. -/
structure Update where
  /-- The task that is changed. -/
  task : String
  /-- The property that is set or cleared. -/
  property : String
  /-- The new value; absent where the property is cleared. -/
  value : Option String
  /-- When the update was made. -/
  timestamp : Timestamp
deriving DecidableEq

/-- A field of updates was asked of an operation of another kind. -/
structure FieldError where
  /-- The field that was asked for. -/
  field : String
  /-- The kind of the operation that was asked. -/
  kind : Kind
deriving DecidableEq

/-- The text that reports the error. -/
def FieldError.message (e : FieldError) : String :=
  "operation is not an update: cannot read " ++ e.field ++ " of " ++ e.kind.name

namespace Operation

/-- The kind of an operation. -/
def kind : Operation → Kind
  | create _ => .create
  | delete _ => .delete
  | update .. => .update

/-- The task that an operation is about. -/
def task : Operation → String
  | create t => t
  | delete t => t
  | update t _ _ _ => t

/-- What an update carries; a create and a delete have no such view. -/
def asUpdate? : Operation → Option Update
  | update t p v s => some ⟨t, p, v, s⟩
  | _ => none

/-- Whether an operation is an update. -/
def isUpdate (op : Operation) : Bool := op.asUpdate?.isSome

/-- What an update carries, or the error of asking another operation for the field. -/
def updateFor (field : String) (op : Operation) : Except FieldError Update :=
  match op.asUpdate? with
  | some u => .ok u
  | none => .error ⟨field, op.kind⟩

/-- The property that an update changes. -/
def property (op : Operation) : Except FieldError String :=
  (op.updateFor "property").map Update.property

/-- The value that an update gives; absent where it clears the property. -/
def value (op : Operation) : Except FieldError (Option String) :=
  (op.updateFor "value").map Update.value

/-- When an update was made. -/
def timestamp (op : Operation) : Except FieldError Timestamp :=
  (op.updateFor "timestamp").map Update.timestamp

section Stamped

variable {κ : Type} [TimeSource κ]

/-- Sets a property now, by a clock. -/
def set (task property value : String) (clock : κ) : Operation :=
  update task property (some value) (TimeSource.now clock)

/-- Clears a property now, by a clock. -/
def clear (task property : String) (clock : κ) : Operation :=
  update task property none (TimeSource.now clock)

end Stamped

end Operation

end TaskReplicas
