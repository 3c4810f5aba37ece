import TaskReplicas.Fault

/-!
# Pools of workers

Items are drawn from a stream, and each is worked on by a worker of its own. A pool has a limit to
how many workers are busy at the same time. While there is room it draws the next item; when there
is none, or nothing is left to draw, it waits until a worker is done and collects its item. Which
worker that is, is not up to the pool. That nothing is left is only seen where there is room as
well, so a pool that may keep no worker busy draws nothing and waits for ever, even for no item.
-/

set_option autoImplicit false

namespace TaskReplicas

/-- Which of the busy workers is done next, by how many items are not collected yet. The workers are
counted from the one that has been busy longest, and round and round. -/
abbrev Turns := Nat → Nat

/-- Whoever has been busy longest is done next. -/
def Turns.oldestFirst : Turns := fun _ => 0

namespace Pool

variable {ς α : Type}

/-- Draws so many items, one after the other. -/
def drawMany (draw : ς → Except Fault (α × ς)) : Nat → ς → Except Fault (List α × ς)
  | 0, s => .ok ([], s)
  | n + 1, s => do
    let (x, s) ← draw s
    let (xs, s) ← drawMany draw n s
    return (x :: xs, s)

/-- The item of the worker whose turn it is, and the items of the others. -/
def takeTurn (turn : Nat) (busy : List α) : Option (α × List α) :=
  let i := turn % busy.length
  busy[i]?.map fun x => (x, busy.eraseIdx i)

/-- What a pool collects of so many items, those that are worked on included, in the order in which
their workers are done; `none` when it waits for ever. -/
def collect (draw : ς → Except Fault (α × ς)) (limit : Nat) (turns : Turns) :
    Nat → ς → List α → Except Fault (Option (List α))
  | 0, _, _ => .ok (if limit = 0 then none else some [])
  | n + 1, s, busy => do
    -- as many are drawn as there is room for, if so many are left
    let (drawn, s) ← drawMany draw (min limit (n + 1) - busy.length) s
    match takeTurn (turns n) (busy ++ drawn) with
    | none => return none
    | some (x, others) =>
      let rest ← collect draw limit turns n s others
      return rest.map (x :: ·)

end Pool

end TaskReplicas
