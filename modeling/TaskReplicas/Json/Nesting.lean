import TaskReplicas.Json.Token

/-!
# Nested values

A value is looked at from outside only: of a list or an object it counts that it is one, not what
it holds. `Nesting` follows the tokens of a list or an object to its closing bracket and finds out
whether they are in their places. The brackets that are open at once are bounded, and one more than
there is room for is malformed.
-/

set_option autoImplicit false

namespace TaskReplicas.Json

/-- A value as it shows from outside. -/
inductive Outline
  | null
  | bool (b : Bool)
  | number (n : Number)
  | string (s : String)
  | list
  | object
deriving DecidableEq

/-- The outline of the value that a token starts, if it starts one. -/
def Outline.ofToken? : Token → Option Outline
  | .null => some null
  | .bool b => some (bool b)
  | .number n => some (number n)
  | .string s => some (string s)
  | .openList => some list
  | .openObject => some object
  | _ => none

/-- What is wrong when a value is needed and a token starts none. -/
def valueDefect : Token → Defect
  | .broken _ defect => defect
  | _ => .malformed

/-- What is wrong when a string is needed and a token is none. -/
def keyDefect : Token → Defect
  | .broken true defect => defect
  | _ => .malformed

/-- The two kinds of brackets. -/
inductive Bracket
  | list
  | object
deriving DecidableEq

/-- A place inside a bracket, by what may come next. -/
inductive Place
  /-- Behind the opening bracket of a list: an item, or the closing bracket. -/
  | itemOrClose
  /-- Behind a comma in a list: an item. -/
  | item
  /-- Behind an item: a comma, or the closing bracket. -/
  | itemEnd
  /-- Behind the opening bracket of an object: a key, or the closing bracket. -/
  | keyOrClose
  /-- Behind a comma in an object: a key. -/
  | key
  /-- Behind a key: a colon. -/
  | colon
  /-- Behind a colon: a value. -/
  | entry
  /-- Behind the value of an entry: a comma, or the closing bracket. -/
  | entryEnd
deriving DecidableEq

/-- The place behind an opening bracket. -/
def Bracket.start : Bracket → Place
  | list => .itemOrClose
  | object => .keyOrClose

/-- The place behind a value in a bracket. -/
def Bracket.afterValue : Bracket → Place
  | list => .itemEnd
  | object => .entryEnd

/-- A place in nested brackets. -/
structure Nesting where
  /-- The innermost open bracket. -/
  inner : Bracket
  /-- The open brackets around it, from the inside out. -/
  outer : List Bracket
  /-- Where in the innermost bracket. -/
  place : Place
  /-- How many more brackets may be opened. -/
  room : Nat
deriving DecidableEq

namespace Nesting

/-- The place behind a first opening bracket. -/
def opened (b : Bracket) (room : Nat) : Nesting := ⟨b, [], b.start, room⟩

/-- The same brackets at another place of the innermost. -/
def goto (n : Nesting) (place : Place) : Except Defect (Option Nesting) :=
  .ok (some { n with place })

/-- Opens a further bracket. -/
def enter (n : Nesting) (b : Bracket) : Except Defect (Option Nesting) :=
  match n.room with
  | 0 => .error .malformed
  | room + 1 => .ok (some ⟨b, n.inner :: n.outer, b.start, room⟩)

/-- Closes the innermost bracket: nothing is left when that was the last. -/
def close (n : Nesting) : Except Defect (Option Nesting) :=
  match n.outer with
  | [] => .ok none
  | b :: outer => .ok (some ⟨b, outer, b.afterValue, n.room + 1⟩)

/-- Takes a token where a value is needed. -/
def value (n : Nesting) (t : Token) : Except Defect (Option Nesting) :=
  match Outline.ofToken? t with
  | some .list => n.enter .list
  | some .object => n.enter .object
  | some _ => n.goto n.inner.afterValue
  | none => .error (valueDefect t)

/-- Takes a token where a key is needed. -/
def key (n : Nesting) : Token → Except Defect (Option Nesting)
  | .string _ => n.goto .colon
  | t => .error (keyDefect t)

/-- Takes the next token. Nothing is left when it closes the outermost bracket. -/
def next (n : Nesting) (t : Token) : Except Defect (Option Nesting) :=
  match n.place with
  | .itemOrClose => if t = .closeList then n.close else n.value t
  | .item => n.value t
  | .itemEnd =>
    if t = .comma then n.goto .item
    else if t = .closeList then n.close
    else .error .malformed
  | .keyOrClose => if t = .closeObject then n.close else n.key t
  | .key => n.key t
  | .colon => if t = .colon then n.goto .entry else .error .malformed
  | .entry => n.value t
  | .entryEnd =>
    if t = .comma then n.goto .key
    else if t = .closeObject then n.close
    else .error .malformed

end Nesting

end TaskReplicas.Json
