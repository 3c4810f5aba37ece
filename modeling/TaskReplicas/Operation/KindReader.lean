import TaskReplicas.Operation.Reader

/-!
# Reading kinds

A kind on its own is a string with its name, or an object whose only key is the name and whose value
is `null`. Anything else where the name is needed is malformed by its first character, whether or
not it is a value.
-/

set_option autoImplicit false

namespace TaskReplicas

open Json (Outline Token)

/-- How far a kind has been read. -/
inductive KindReading
  /-- Nothing of it. -/
  | start
  /-- Behind the opening bracket of an object. -/
  | key
  /-- Behind the key, which names the kind. -/
  | colon (kind : Kind)
  /-- Behind the colon. -/
  | value (kind : Kind)
  /-- Behind the value. -/
  | close (kind : Kind)
deriving DecidableEq

namespace KindReading

/-- Takes a token where only a name can stand. -/
def named : Token → Except ReadError Kind
  | .string s => Reading.kindOf (.string s)
  | t => .error (.defect (Json.keyDefect t))

/-- Takes the next token of a kind: its name, or an object with its name as the only key and
nothing as the value. -/
def next (r : KindReading) (t : Token) : Except ReadError (Step KindReading Kind) :=
  match r with
  | start => if t = .openObject then .ok (.more .key) else (named t).map .done
  | key => (named t).map fun kind => .more (.colon kind)
  | colon kind => if t = .colon then .ok (.more (.value kind)) else .error (.defect .malformed)
  | value kind =>
    match Outline.ofToken? t with
    | some .null => .ok (.more (.close kind))
    | some found => .error (.mismatch (.wrongType found .nothing))
    | none => .error (.defect (Json.valueDefect t))
  | close kind => if t = .closeObject then .ok (.done kind) else .error (.defect .malformed)

end KindReading

/-- Reads the kind that a message holds. -/
def Kind.decode (text : String) : Except ReadError Kind :=
  readTokens KindReading.next .start (Json.scan text.toList)

end TaskReplicas
