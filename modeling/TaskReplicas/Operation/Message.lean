import TaskReplicas.Json.Token
import TaskReplicas.Operation.Basic

/-!
# Messages

Replicas exchange operations as JSON. An operation is an object that names its kind first and then
its fields; an absent value is `null`. A log is a list of such objects.
-/

set_option autoImplicit false

namespace TaskReplicas

open Json (Token)

/-- The entries of an object, without its brackets. -/
def entryTokens (entries : List (String × Token)) : List Token :=
  [.comma].intercalate (entries.map fun (k, v) => [.string k, .colon, v])

/-- The object with these entries. -/
def objectTokens (entries : List (String × Token)) : List Token :=
  .openObject :: entryTokens entries ++ [.closeObject]

namespace Operation

/-- The fields of an operation behind its kind, in the order of their declaration. -/
def fieldTokens : Operation → List (String × Token)
  | create t => [("task_id", .string t)]
  | delete t => [("task_id", .string t)]
  | update t p v s =>
    [("task_id", .string t), ("property", .string p), ("value", v.elim .null .string),
      ("timestamp", .number (.integer s.toInt))]

/-- The tokens of the message for an operation. -/
def tokens (op : Operation) : List Token :=
  objectTokens (("kind", .string op.kind.name) :: op.fieldTokens)

/-- The message for an operation. -/
def json (op : Operation) : String := String.ofList (Json.written op.tokens)

end Operation

/-- The message for a kind. -/
def Kind.json (k : Kind) : String := String.ofList (Json.written [.string k.name])

end TaskReplicas
