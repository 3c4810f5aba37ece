import TaskReplicas.Operation.Reader

/-!
# Reading logs

A log is a list of operations. Each of them is read as it would be on its own, in the order in which
they stand, and the log is read when its closing bracket is.
-/

set_option autoImplicit false

namespace TaskReplicas

open Json (Outline Token Place)

/-- How far a log has been read. -/
inductive LogReading
  /-- Nothing of it. -/
  | start
  /-- Between operations: those so far, the last one first. -/
  | between (log : List Operation) (place : Place)
  /-- Into an operation. -/
  | inside (log : List Operation) (operation : Reading)
deriving DecidableEq

namespace LogReading

/-- Takes the next token of an operation in a log. The brackets of the log and of the operation are
open around what the operation holds. -/
def nextInside (log : List Operation) (r : Reading) (t : Token) :
    Except ReadError (Step LogReading (List Operation)) :=
  match r.next (nestingLimit - 2) t with
  | .ok (.more r) => .ok (.more (.inside log r))
  | .ok (.done op) => .ok (.more (.between (op :: log) .itemEnd))
  | .error e => .error e

/-- Takes the next token of a log. -/
def next (l : LogReading) (t : Token) : Except ReadError (Step LogReading (List Operation)) :=
  match l with
  | start =>
    match Outline.ofToken? t with
    | some .list => .ok (.more (.between [] .itemOrClose))
    | some found => .error (.mismatch (.wrongType found .log))
    | none => .error (.defect (Json.valueDefect t))
  | between log .itemOrClose =>
    if t = .closeList then .ok (.done log.reverse) else nextInside log .start t
  | between log .item => nextInside log .start t
  | between log _ =>
    if t = .comma then .ok (.more (.between log .item))
    else if t = .closeList then .ok (.done log.reverse)
    else .error (.defect .malformed)
  | inside log r => nextInside log r t

end LogReading

/-- Reads the log that a message holds. -/
def decodeLog (text : String) : Except ReadError (List Operation) :=
  readTokens LogReading.next .start (Json.scan text.toList)

end TaskReplicas
