import TaskReplicas.Json.Nesting
import TaskReplicas.Operation.Basic
import TaskReplicas.Text.Literal

/-!
# Refused messages

A text is refused either because it is not JSON, or because the JSON that it is does not fit what
was to be read. A `Mismatch` keeps what was found and what was expected; the wording is in
`Mismatch.message`.
-/

set_option autoImplicit false

namespace TaskReplicas

open Json (Outline Number Defect)

/-- A value as it is named in a report. -/
def Json.Outline.describe : Outline → String
  | .null => "null"
  | .bool true => "boolean `true`"
  | .bool false => "boolean `false`"
  | .number (.integer n) => "integer `" ++ Decimal.integer n ++ "`"
  | .number (.double bits) => "floating point `" ++ Decimal.shortest bits ++ "`"
  | .string s => "string " ++ Text.literal s
  | .list => "sequence"
  | .object => "map"

/-- What was to be read. -/
inductive Expected
  /-- The name of a kind. -/
  | kindName
  /-- A string. -/
  | text
  /-- A timestamp. -/
  | timestamp
  /-- An operation. -/
  | operation
  /-- A list of operations. -/
  | log
  /-- Nothing, written `null`. -/
  | nothing
deriving DecidableEq

/-- How a report names what was to be read. -/
def Expected.describe : Expected → String
  | .kindName => "variant identifier"
  | .text => "a string"
  | .timestamp => "i64"
  | .operation => "internally tagged enum Operation"
  | .log => "a sequence"
  | .nothing => "unit"

/-- How JSON fails to be what was to be read. -/
inductive Mismatch
  /-- A value of another type was found. -/
  | wrongType (found : Outline) (expected : Expected)
  /-- An integer is no timestamp. -/
  | outOfRange (n : Int)
  /-- No kind has that name. -/
  | unknownKind (name : String)
  /-- A field was given twice. -/
  | duplicateField (name : String)
  /-- A field was not given. -/
  | missingField (name : String)
  /-- A list has fewer items than an operation of the kind has fields. -/
  | tooFew (given : Nat) (kind : Kind)
  /-- A list has more items than an operation of the kind has fields. -/
  | tooMany (given : Nat) (kind : Kind)
deriving DecidableEq

/-- The names of the fields that an operation of a kind has. -/
def Kind.fieldNames : Kind → List String
  | .create => ["task_id"]
  | .delete => ["task_id"]
  | .update => ["task_id", "property", "value", "timestamp"]

/-- A number of elements, counted in words. -/
def elements (n : Nat) : String :=
  Decimal.natural n ++ (if n = 1 then " element" else " elements")

/-- The report of a mismatch. -/
def Mismatch.message : Mismatch → String
  | .wrongType found expected =>
    "invalid type: " ++ found.describe ++ ", expected " ++ expected.describe
  | .outOfRange n => "invalid value: integer `" ++ Decimal.integer n ++ "`, expected i64"
  | .unknownKind name =>
    "unknown variant `" ++ name ++ "`, expected one of "
      ++ ", ".intercalate (Kind.all.map fun k => "`" ++ k.name ++ "`")
  | .duplicateField name => "duplicate field `" ++ name ++ "`"
  | .missingField name => "missing field `" ++ name ++ "`"
  | .tooFew given kind =>
    "invalid length " ++ Decimal.natural given ++ ", expected struct variant Operation::"
      ++ kind.name ++ " with " ++ elements kind.fieldNames.length
  | .tooMany given kind =>
    "invalid length " ++ Decimal.natural given ++ ", expected "
      ++ elements kind.fieldNames.length ++ " in sequence"

/-- Why a text is refused. -/
inductive ReadError
  /-- It is not JSON. -/
  | defect (d : Defect)
  /-- It is JSON of another kind than was to be read. -/
  | mismatch (m : Mismatch)
deriving DecidableEq

end TaskReplicas
