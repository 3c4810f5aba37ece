import TaskReplicas.Operation.Fields

/-!
# Reading operations

A message is read token by token from left to right, and the first thing that is wrong ends it. The
kind of an operation is looked at where it stands; the rest is kept until the closing bracket. What
follows the value, other than blanks, is found last.
-/

set_option autoImplicit false

namespace TaskReplicas

open Json (Outline Token Nesting Bracket Place Defect)

/-- After a token: more tokens are needed, or something has been read. -/
inductive Step (σ α : Type)
  /-- More tokens are needed. -/
  | more (state : σ)
  /-- Something has been read. -/
  | done (result : α)

/-- Reads a whole row of tokens. It is truncated when something has not been read at its end, and
malformed when there are tokens behind what has been read. -/
def readTokens {σ α : Type} (next : σ → Token → Except ReadError (Step σ α)) :
    σ → List Token → Except ReadError α
  | _, [] => .error (.defect .truncated)
  | s, t :: ts =>
    match next s t with
    | .error e => .error e
    | .ok (.more s) => readTokens next s ts
    | .ok (.done a) => if ts.isEmpty then .ok a else .error (.defect .malformed)

/-- How many brackets may be open at once. -/
def nestingLimit : Nat := 127

/-- A value that is being passed over: what it is, and where in it. -/
structure Passing where
  /-- What it is. -/
  outline : Outline
  /-- Where in it. -/
  nesting : Nesting
deriving DecidableEq

/-- How far an operation has been read. -/
inductive Reading
  /-- Nothing of it. -/
  | start
  /-- Into an object: the kind and the other entries so far, the last entry first. -/
  | object (kind : Option Kind) (entries : List (String × Outline)) (place : Place)
      (key : String)
  /-- Into a value in an object. -/
  | inObject (kind : Option Kind) (entries : List (String × Outline)) (key : String)
      (value : Passing)
  /-- Into a list, before its first item, which is the kind. -/
  | listKind
  /-- Into a list behind the kind: the items so far, the last item first. -/
  | list (kind : Kind) (items : List Outline) (place : Place)
  /-- Into an item of a list. -/
  | inList (kind : Kind) (items : List Outline) (value : Passing)
deriving DecidableEq

namespace Reading

/-- The result of a step while an operation is read. -/
abbrev Result := Except ReadError (Step Reading Operation)

/-- What is not JSON ends the reading. -/
def refuse (d : Defect) : Result := .error (.defect d)

/-- The reading goes on. -/
def goOn (r : Reading) : Result := .ok (.more r)

/-- The last bracket has closed. -/
def finish : Except Mismatch Operation → Result
  | .ok op => .ok (.done op)
  | .error m => .error (.mismatch m)

/-- Takes a token where the kind is needed. Of a list or an object only the opening bracket is
looked at. -/
def kindOf (t : Token) : Except ReadError Kind :=
  match Outline.ofToken? t with
  | none => .error (.defect (Json.valueDefect t))
  | some found =>
    match readKind found with
    | .ok kind => .ok kind
    | .error m => .error (.mismatch m)

/-- The bracket that a value opens. -/
def bracket? : Outline → Option Bracket
  | .list => some .list
  | .object => some .object
  | _ => none

/-- Takes a token where any value is needed: at once what it is, or that it is to be passed over,
with room for so many more brackets. -/
def valueOf (room : Nat) (t : Token) : Except ReadError (Outline ⊕ Passing) :=
  match Outline.ofToken? t with
  | none => .error (.defect (Json.valueDefect t))
  | some found =>
    match bracket? found, room with
    | none, _ => .ok (.inl found)
    | some _, 0 => .error (.defect .malformed)
    | some b, room + 1 => .ok (.inr ⟨found, .opened b room⟩)

/-- Takes a token where a key is needed. A second kind is refused as soon as its key is read. -/
def takeKey (kind : Option Kind) (entries : List (String × Outline)) : Token → Result
  | .string key =>
    if key = "kind" ∧ kind.isSome then .error (.mismatch (.duplicateField "kind"))
    else goOn (.object kind entries .colon key)
  | t => refuse (Json.keyDefect t)

/-- Closes an object. -/
def closeObject (kind : Option Kind) (entries : List (String × Outline)) : Result :=
  match kind with
  | some kind => finish (Operation.ofEntries kind entries.reverse)
  | none => .error (.mismatch (.missingField "kind"))

/-- Takes the value of an entry. -/
def takeEntry (room : Nat) (kind : Option Kind) (entries : List (String × Outline))
    (key : String) (t : Token) : Result :=
  if key = "kind" then
    match kindOf t with
    | .ok kind => goOn (.object (some kind) entries .entryEnd "")
    | .error e => .error e
  else
    match valueOf room t with
    | .ok (.inl found) => goOn (.object kind ((key, found) :: entries) .entryEnd "")
    | .ok (.inr value) => goOn (.inObject kind entries key value)
    | .error e => .error e

/-- Takes a token in an object. -/
def nextInObject (room : Nat) (kind : Option Kind) (entries : List (String × Outline))
    (place : Place) (key : String) (t : Token) : Result :=
  match place with
  | .keyOrClose => if t = .closeObject then closeObject kind entries else takeKey kind entries t
  | .key => takeKey kind entries t
  | .colon =>
    if t = .colon then goOn (.object kind entries .entry key) else refuse .malformed
  | .entry => takeEntry room kind entries key t
  | _ =>
    if t = .comma then goOn (.object kind entries .key "")
    else if t = .closeObject then closeObject kind entries
    else refuse .malformed

/-- Takes an item of a list. -/
def takeItem (room : Nat) (kind : Kind) (items : List Outline) (t : Token) : Result :=
  match valueOf room t with
  | .ok (.inl found) => goOn (.list kind (found :: items) .itemEnd)
  | .ok (.inr value) => goOn (.inList kind items value)
  | .error e => .error e

/-- Takes a token in a list. -/
def nextInList (room : Nat) (kind : Kind) (items : List Outline) (place : Place) (t : Token) :
    Result :=
  match place with
  | .item => takeItem room kind items t
  | _ =>
    if t = .comma then goOn (.list kind items .item)
    else if t = .closeList then finish (Operation.ofItems kind items.reverse)
    else refuse .malformed

/-- Takes a token in a value that is passed over, and goes on behind it with its outline. -/
def passOver (value : Passing) (t : Token) (inside : Passing → Reading)
    (behind : Outline → Reading) : Result :=
  match value.nesting.next t with
  | .ok (some nesting) => goOn (inside ⟨value.outline, nesting⟩)
  | .ok none => goOn (behind value.outline)
  | .error d => refuse d

/-- Takes the next token of an operation, with room for so many brackets inside its own. -/
def next (room : Nat) (r : Reading) (t : Token) : Result :=
  match r with
  | start =>
    match Outline.ofToken? t with
    | some .object => goOn (.object none [] .keyOrClose "")
    | some .list => goOn .listKind
    | some found => .error (.mismatch (.wrongType found .operation))
    | none => refuse (Json.valueDefect t)
  | object kind entries place key => nextInObject room kind entries place key t
  | inObject kind entries key value =>
    passOver value t (.inObject kind entries key)
      (fun found => .object kind ((key, found) :: entries) .entryEnd "")
  | listKind =>
    if t = .closeList then .error (.mismatch (.missingField "kind"))
    else
      match kindOf t with
      | .ok kind => goOn (.list kind [] .itemEnd)
      | .error e => .error e
  | list kind items place => nextInList room kind items place t
  | inList kind items value =>
    passOver value t (.inList kind items) (fun found => .list kind (found :: items) .itemEnd)

end Reading

/-- Reads the operation that a message holds. -/
def Operation.decode (text : String) : Except ReadError Operation :=
  readTokens (Reading.next (nestingLimit - 1)) .start (Json.scan text.toList)

end TaskReplicas
