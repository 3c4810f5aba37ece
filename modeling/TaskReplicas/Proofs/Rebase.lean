import TaskReplicas.Proofs.Convergence

/-!
# Rebasing one log onto another

Two replicas start as one and go their own ways, each by a log of operations. `rebase` carries the
logs across each other by pairwise transforms: the cells of a grid with a row for each operation of
the first log and a column for each of the second. A cell takes what is left of its row's operation
and of its column's, transforms the two, the row's being given first, and hands the outputs on.

The correctness of a cell (`Replica.transform?_square`) is that it closes a square of replicas and
that what comes out of it fits where it is to be applied. A row of cells is a strip of such squares
(`Replica.carry_strip`) and the grid is a stack of strips (`Replica.grid_spec`). What fits is kept
from cell to cell, so no cell ever meets a pair that splits its replica.
-/

set_option autoImplicit false

namespace TaskReplicas

/-! ## The grid -/

/-- Carries what is left of one operation across what is left of a log: what is left of the
operation behind it, and of the log behind the operation. -/
def carry : Option Operation → List (Option Operation) → Option Operation × List (Option Operation)
  | a, [] => (a, [])
  | a, b :: B =>
    let (a', b') := transform? a b
    let (a'', B') := carry a' B
    (a'', b' :: B')

/-- Carries what is left of two logs across each other, the first log's operations being given
first to every transform. -/
def grid : List (Option Operation) → List (Option Operation) →
    List (Option Operation) × List (Option Operation)
  | [], B => ([], B)
  | a :: A, B =>
    let (a', B') := carry a B
    let (A', B'') := grid A B'
    (a' :: A', B'')

/-- The operations that are left. -/
def remaining (row : List (Option Operation)) : List Operation := row.filterMap id

/-- Two logs, each as it is left behind the other. -/
def rebase (A B : List Operation) : List Operation × List Operation :=
  let (A', B') := grid (A.map some) (B.map some)
  (remaining A', remaining B')

/-- Of a log nothing is missing at first. -/
theorem remaining_map_some (A : List Operation) : remaining (A.map some) = A := by
  simp [remaining]

/-! ## Nothing is invented -/

/-- The first operation survives as it is, or not at all. -/
theorem transform?_fst (a b : Option Operation) :
    (transform? a b).1 = none ∨ (transform? a b).1 = a := by
  cases a with
  | none => exact .inl rfl
  | some a =>
    cases b with
    | none => exact .inr rfl
    | some b => exact transform_fst_eq_none_or a b

/-- The second operation survives as it is, or not at all. -/
theorem transform?_snd (a b : Option Operation) :
    (transform? a b).2 = none ∨ (transform? a b).2 = b := by
  cases a with
  | none => exact .inr rfl
  | some a =>
    cases b with
    | none => exact .inl rfl
    | some b => exact transform_snd_eq_none_or a b

/-- What is left of a log is a part of it, in its order, when each place is left or cleared. -/
theorem remaining_cons_sublist {o o' : Option Operation} {A A' : List (Option Operation)}
    (ho : o' = none ∨ o' = o) (hA : (remaining A').Sublist (remaining A)) :
    (remaining (o' :: A')).Sublist (remaining (o :: A)) := by
  rcases ho with rfl | rfl
  · cases o with
    | none => exact hA
    | some op => exact hA.cons op
  · cases o' with
    | none => exact hA
    | some op => exact hA.cons_cons op

/-- An operation is carried past others as it is, or not at all. -/
theorem carry_fst (a : Option Operation) (B : List (Option Operation)) :
    (carry a B).1 = none ∨ (carry a B).1 = a := by
  induction B generalizing a with
  | nil => exact .inr rfl
  | cons b B ih =>
    simp only [carry]
    rcases transform?_fst a b with h | h
    · rw [h]
      exact .inl ((ih none).elim id id)
    · rw [h]
      exact ih a

/-- Past an operation a row keeps its order and gains nothing. -/
theorem carry_snd_sublist (a : Option Operation) (B : List (Option Operation)) :
    (remaining (carry a B).2).Sublist (remaining B) := by
  induction B generalizing a with
  | nil => exact List.Sublist.refl _
  | cons b B ih => exact remaining_cons_sublist (transform?_snd a b) (ih _)

/-- Both logs come out of the grid as parts of what went in. -/
theorem grid_sublist (A B : List (Option Operation)) :
    (remaining (grid A B).1).Sublist (remaining A) ∧
      (remaining (grid A B).2).Sublist (remaining B) := by
  induction A generalizing B with
  | nil => exact ⟨List.Sublist.refl _, List.Sublist.refl _⟩
  | cons a A ih =>
    obtain ⟨hA, hB⟩ := ih (carry a B).2
    exact ⟨remaining_cons_sublist (carry_fst a B) hA, hB.trans (carry_snd_sublist a B)⟩

namespace Replica

/-! ## What fits -/

/-- Each operation of a log fits the replica that those before it have led to. -/
def AcceptsLog (s : Replica) : List Operation → Prop
  | [] => True
  | op :: log => s.Accepts op ∧ (s.apply op).AcceptsLog log

instance decidableAcceptsLog (s : Replica) : (log : List Operation) → Decidable (s.AcceptsLog log)
  | [] => inferInstanceAs (Decidable True)
  | op :: log =>
    have := decidableAcceptsLog (s.apply op) log
    inferInstanceAs (Decidable (s.Accepts op ∧ (s.apply op).AcceptsLog log))

/-- What is left of an operation fits. It always does when nothing is left. -/
def AcceptsOption (s : Replica) (o : Option Operation) : Prop := ∀ op, o = some op → s.Accepts op

/-- Every replica accepts nothing. -/
theorem acceptsOption_none (s : Replica) : s.AcceptsOption none := by
  intro op h
  cases h

/-- A replica accepts an operation that may be missing as it accepts the operation. -/
theorem acceptsOption_some {s : Replica} {op : Operation} :
    s.AcceptsOption (some op) ↔ s.Accepts op := by
  constructor
  · intro h
    exact h op rfl
  · rintro h op' ⟨⟩
    exact h

/-- What is left of a row is applied from its first place on. -/
theorem run_remaining_cons (s : Replica) (o : Option Operation) (row : List (Option Operation)) :
    s.run (remaining (o :: row)) = (s.applyOption o).run (remaining row) := by
  cases o <;> rfl

/-- What is left of a row is accepted from its first place on. -/
theorem acceptsLog_remaining_cons {s : Replica} {o : Option Operation}
    {row : List (Option Operation)} :
    s.AcceptsLog (remaining (o :: row)) ↔
      s.AcceptsOption o ∧ (s.applyOption o).AcceptsLog (remaining row) := by
  cases o with
  | none => exact (and_iff_right s.acceptsOption_none).symm
  | some op => exact and_congr_left' acceptsOption_some.symm

/-- Whether an operation fits depends on the presence of its task alone. -/
theorem accepts_congr {s s' : Replica} {op : Operation}
    (h : s.holds op.task = s'.holds op.task) : s.Accepts op ↔ s'.Accepts op := by
  cases op with
  | create t => simp only [Accepts, show s.holds t = s'.holds t from h]
  | delete t => exact Iff.rfl
  | update t p v i => simp only [Accepts, show s.holds t = s'.holds t from h]

/-- An operation that survives another one still fits when the other one has been applied. -/
theorem accepts_apply_of_survive {s : Replica} {a b : Operation} (ha : s.Accepts a)
    (hb : s.Accepts b) (hba : ¬ b.YieldsTo a) : (s.apply a).Accepts b := by
  by_cases h : a.task = b.task
  -- On one task, an operation survives only what leaves the task as the operation needs it. A
  -- create and an update do not come up together, since they never both fit.
  · cases b with
    | delete u => exact trivial
    | create u =>
      cases a with
      | create t => cases h; exact absurd (.create u) hba
      | delete t =>
        cases h
        exact s.holds_apply_self (.delete u)
      | update t p v i => cases h; exact absurd (ha.symm.trans hb) Bool.noConfusion
    | update u q w j =>
      cases a with
      | create t => cases h; exact absurd (hb.symm.trans ha) Bool.noConfusion
      | delete t => cases h; exact absurd (.updateToDelete u q w j) hba
      | update t p v i =>
        cases h
        exact (s.holds_apply_update u p v i).trans hb
  · exact (accepts_congr (s.holds_apply_of_ne h)).mpr hb

/-! ## Squares, strips and the grid -/

/-- One cell of the grid closes a square, and what comes out of it fits where it is applied. -/
theorem transform?_square {s : Replica} {a b : Option Operation} (ha : s.AcceptsOption a)
    (hb : s.AcceptsOption b) :
    (s.applyOption a).applyOption (transform? a b).2 =
        (s.applyOption b).applyOption (transform? a b).1 ∧
      (s.applyOption a).AcceptsOption (transform? a b).2 ∧
      (s.applyOption b).AcceptsOption (transform? a b).1 := by
  cases a with
  | none => exact ⟨rfl, hb, acceptsOption_none _⟩
  | some a =>
    cases b with
    | none => exact ⟨rfl, acceptsOption_none _, ha⟩
    | some b =>
      rw [acceptsOption_some] at ha hb
      refine ⟨firstThenRest_eq_of_accepts ha hb, ?_, ?_⟩
      · intro op h
        obtain ⟨rfl, hba⟩ := eq_and_not_yieldsTo_of_transform_snd h
        exact accepts_apply_of_survive ha hb hba
      · intro op h
        obtain ⟨rfl, hab⟩ := eq_and_not_yieldsTo_of_transform_fst h
        exact accepts_apply_of_survive hb ha hab

/-- An operation and a log that both fit are carried across each other. The induction moves along
the log; what it keeps is that the square of each cell starts where the one before it ended. -/
theorem carry_strip {s : Replica} {a : Option Operation} {B : List (Option Operation)}
    (ha : s.AcceptsOption a) (hB : s.AcceptsLog (remaining B)) :
    (s.applyOption a).run (remaining (carry a B).2) =
        (s.run (remaining B)).applyOption (carry a B).1 ∧
      (s.applyOption a).AcceptsLog (remaining (carry a B).2) ∧
      (s.run (remaining B)).AcceptsOption (carry a B).1 := by
  induction B generalizing s a with
  | nil => exact ⟨rfl, trivial, ha⟩
  | cons b B ih =>
    obtain ⟨hb, hB⟩ := acceptsLog_remaining_cons.mp hB
    obtain ⟨square, fits, fits'⟩ := transform?_square ha hb
    obtain ⟨strip, log, last⟩ := ih fits' hB
    rw [← square] at strip log
    simp only [carry, run_remaining_cons]
    exact ⟨strip, acceptsLog_remaining_cons.mpr ⟨fits, log⟩, last⟩

/-- Two logs that both fit are carried across each other. -/
theorem grid_spec {s : Replica} {A B : List (Option Operation)} (hA : s.AcceptsLog (remaining A))
    (hB : s.AcceptsLog (remaining B)) :
    (s.run (remaining A)).run (remaining (grid A B).2) =
        (s.run (remaining B)).run (remaining (grid A B).1) ∧
      (s.run (remaining A)).AcceptsLog (remaining (grid A B).2) ∧
      (s.run (remaining B)).AcceptsLog (remaining (grid A B).1) := by
  induction A generalizing s B with
  | nil => exact ⟨rfl, hB, trivial⟩
  | cons a A ih =>
    obtain ⟨ha, hA⟩ := acceptsLog_remaining_cons.mp hA
    obtain ⟨strip, log, last⟩ := carry_strip ha hB
    obtain ⟨stack, logB, logA⟩ := ih hA log
    rw [strip] at stack logA
    simp only [grid, run_remaining_cons]
    exact ⟨stack, logB, acceptsLog_remaining_cons.mpr ⟨last, logA⟩⟩

/-- **Rebasing works.** Two logs that both fit a replica are rebased onto each other: each behind
the other one leads to the same replica, and fits there, and what is left of a log is a part of it
in its order. -/
theorem run_rebase {s : Replica} {A B : List Operation} (hA : s.AcceptsLog A)
    (hB : s.AcceptsLog B) :
    (s.run A).run (rebase A B).2 = (s.run B).run (rebase A B).1 ∧
      (s.run A).AcceptsLog (rebase A B).2 ∧ (s.run B).AcceptsLog (rebase A B).1 ∧
      (rebase A B).1.Sublist A ∧ (rebase A B).2.Sublist B := by
  rw [← remaining_map_some A] at hA
  rw [← remaining_map_some B] at hB
  obtain ⟨same, fitsB, fitsA⟩ := grid_spec hA hB
  obtain ⟨partA, partB⟩ := grid_sublist (A.map some) (B.map some)
  simp only [remaining_map_some] at same fitsB fitsA partA partB
  exact ⟨same, fitsB, fitsA, partA, partB⟩

/-- A log that deletes a task and brings it back, against one that clears a property of the task and
deletes it as well. -/
theorem run_rebase_recreated :
    let s := empty.apply (.create "abc")
    let A : List Operation := [.update "abc" "due" (some "monday") 5, .delete "abc",
      .create "abc", .update "abc" "due" (some "friday") 9]
    let B : List Operation := [.update "abc" "due" none 7, .create "xyz", .delete "abc"]
    s.AcceptsLog A ∧ s.AcceptsLog B ∧
      (s.run A).run (rebase A B).2 = (s.run B).run (rebase A B).1 ∧
      (s.run A).AcceptsLog (rebase A B).2 ∧ (s.run B).AcceptsLog (rebase A B).1 ∧
      (rebase A B).1.Sublist A ∧ (rebase A B).2.Sublist B := by
  intro s A B
  have hA : s.AcceptsLog A := by decide
  have hB : s.AcceptsLog B := by decide
  exact ⟨hA, hB, run_rebase hA hB⟩

end Replica

end TaskReplicas
