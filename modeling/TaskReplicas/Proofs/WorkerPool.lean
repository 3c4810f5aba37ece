import Mathlib.Data.List.Perm.Basic
import TaskReplicas.Proofs.DrawnOperations
import TaskReplicas.Stress.Run

/-!
# What a pool collects

A pool draws in portions, as workers become free, and drawing in portions is drawing all at once
(`Pool.drawMany_add`). In one turn a pool draws a portion and collects one item of those that are
worked on then (`Pool.collect_step`). So a pool that may keep a worker busy collects what is drawn,
in some order (`Pool.collect_perm`), and stops with the fault that stops the draws
(`Pool.collect_fault`); one that may keep none busy waits for ever (`Pool.collect_no_worker`). Where
there is room for all items at once there is no order in which they cannot be collected
(`Pool.collect_any_order`), so nothing may be known of the order. The rounds of a run are such
items.
-/

set_option autoImplicit false

namespace TaskReplicas

open Sampling (WordSource)

namespace Pool

variable {ς α : Type} {draw : ς → Except Fault (α × ς)}

/-! ## Draws -/

/-- Drawing in two portions is drawing all at once. -/
theorem drawMany_add (m n : Nat) (s : ς) :
    drawMany draw (m + n) s = do
      let first ← drawMany draw m s
      let rest ← drawMany draw n first.2
      return (first.1 ++ rest.1, rest.2) := by
  induction m generalizing s with
  | zero => simp [drawMany, ok_bind]
  | succ m ih => simp [Nat.succ_add, drawMany, ih]

/-- As many items are drawn as are asked for. -/
theorem length_drawMany {n : Nat} {s s' : ς} {xs : List α} (h : drawMany draw n s = .ok (xs, s')) :
    xs.length = n := by
  induction n generalizing s xs with
  | zero =>
    cases h
    rfl
  | succ n ih =>
    obtain ⟨first, -, h⟩ := bind_eq_ok_iff.mp h
    obtain ⟨rest, others, h⟩ := bind_eq_ok_iff.mp h
    cases h
    rw [List.length_cons, ih others]

/-! ## Turns -/

/-- Among busy workers it is always the turn of one, and the others stay busy. -/
theorem takeTurn_perm (turn : Nat) {busy : List α} (h : busy ≠ []) :
    ∃ x others, takeTurn turn busy = some (x, others) ∧ (x :: others).Perm busy := by
  have hi : turn % busy.length < busy.length := Nat.mod_lt _ (List.length_pos_iff.mpr h)
  refine ⟨_, _, ?_, List.getElem_cons_eraseIdx_perm hi⟩
  rw [takeTurn, List.getElem?_eq_getElem hi]
  rfl

/-- A turn collects the item of the worker who is done and goes on with the others. -/
theorem collect_succ {limit n : Nat} {turns : Turns} {s s' : ς} {busy drawn others : List α} {x : α}
    (h : drawMany draw (min limit (n + 1) - busy.length) s = .ok (drawn, s'))
    (turn : takeTurn (turns n) (busy ++ drawn) = some (x, others)) :
    collect draw limit turns (n + 1) s busy = do
      let rest ← collect draw limit turns n s' others
      return rest.map (x :: ·) := by
  rw [collect, h, ok_bind]
  dsimp only
  rw [turn]

/-- A pool that may keep no worker busy waits for ever. -/
theorem collect_no_worker (turns : Turns) (n : Nat) (s : ς) :
    collect draw 0 turns n s [] = .ok none := by
  cases n <;> rfl

/-- What a pool collects of so many items depends on the turns for these items alone. -/
theorem collect_congr {limit n : Nat} {turns turns' : Turns} (h : ∀ k < n, turns k = turns' k)
    (s : ς) (busy : List α) :
    collect draw limit turns n s busy = collect draw limit turns' n s busy := by
  induction n generalizing s busy with
  | zero => rfl
  | succ n ih =>
    have earlier := ih fun k hk => h k (Nat.lt_succ_of_lt hk)
    simp only [collect, h n (Nat.lt_succ_self n), earlier]

section Workers

variable {limit : Nat} (hlimit : 0 < limit) (turns : Turns)
include hlimit

/-- In one turn a pool that may keep a worker busy draws as many items as there is room for, and
collects one of those that are worked on then; `r` of those still to come are left to draw. -/
theorem collect_step {n r : Nat} {s s' : ς} {busy drawn : List α} (hbusy : busy.length ≤ limit)
    (hn : busy.length + (min limit (n + 1) - busy.length + r) = n + 1)
    (h : drawMany draw (min limit (n + 1) - busy.length) s = .ok (drawn, s')) :
    ∃ x others, (x :: others).Perm (busy ++ drawn) ∧ others.length ≤ limit ∧
      others.length + r = n ∧
      collect draw limit turns (n + 1) s busy = do
        let rest ← collect draw limit turns n s' others
        return rest.map (x :: ·) := by
  have full : (busy ++ drawn).length = min limit (n + 1) := by
    rw [List.length_append, length_drawMany h]
    omega
  obtain ⟨x, others, turn, order⟩ :=
    takeTurn_perm (turns n) (List.length_pos_iff.mp (show 0 < (busy ++ drawn).length by omega))
  have count : others.length + 1 = min limit (n + 1) := full ▸ order.length_eq
  exact ⟨x, others, order, by omega, by omega, collect_succ h turn⟩

/-- A pool that may keep a worker busy collects the items that are worked on and those that are
drawn, in some order. The induction is on how many there are together. -/
theorem collect_perm {m : Nat} {s s' : ς} {busy xs : List α} (hbusy : busy.length ≤ limit)
    (h : drawMany draw m s = .ok (xs, s')) :
    ∃ collected, collect draw limit turns (busy.length + m) s busy = .ok (some collected) ∧
      collected.Perm (busy ++ xs) := by
  generalize hn : busy.length + m = n
  induction n generalizing m s busy xs with
  | zero =>
    obtain ⟨empty, rfl⟩ := Nat.add_eq_zero_iff.mp hn
    rw [List.length_eq_zero_iff.mp empty]
    cases h
    exact ⟨[], by rw [collect, if_neg (Nat.ne_of_gt hlimit)], .nil⟩
  | succ n ih =>
    obtain ⟨r, rfl⟩ : ∃ r, m = min limit (n + 1) - busy.length + r :=
      Nat.exists_eq_add_of_le (by omega)
    rw [drawMany_add] at h
    obtain ⟨⟨drawn, s₁⟩, portion, h⟩ := bind_eq_ok_iff.mp h
    obtain ⟨⟨rest, s₂⟩, later, h⟩ := bind_eq_ok_iff.mp h
    cases h
    obtain ⟨x, others, order, room, left, step⟩ := collect_step hlimit turns hbusy hn portion
    obtain ⟨collected, all, order'⟩ := ih room later left
    refine ⟨x :: collected, by rw [step, all]; rfl, ?_⟩
    calc (x :: collected).Perm (x :: (others ++ rest)) := order'.cons x
      List.Perm _ (busy ++ drawn ++ rest) := order.append_right rest
      List.Perm _ (busy ++ (drawn ++ rest)) := .of_eq (List.append_assoc ..)

/-- A pool that may keep a worker busy stops with the fault that stops the draws. -/
theorem collect_fault {m : Nat} {s : ς} {busy : List α} {f : Fault} (hbusy : busy.length ≤ limit)
    (h : drawMany draw m s = .error f) :
    collect draw limit turns (busy.length + m) s busy = .error f := by
  generalize hn : busy.length + m = n
  induction n generalizing m s busy with
  | zero =>
    obtain ⟨-, rfl⟩ := Nat.add_eq_zero_iff.mp hn
    cases h
  | succ n ih =>
    obtain ⟨r, rfl⟩ : ∃ r, m = min limit (n + 1) - busy.length + r :=
      Nat.exists_eq_add_of_le (by omega)
    rw [drawMany_add] at h
    rcases bind_eq_error_iff.mp h with stopped | ⟨⟨drawn, s₁⟩, portion, h⟩
    · rw [collect, stopped]
      rfl
    rcases bind_eq_error_iff.mp h with stopped | ⟨_, -, h⟩
    · obtain ⟨x, others, -, room, left, step⟩ := collect_step hlimit turns hbusy hn portion
      rw [step, ih room stopped left]
      rfl
    · cases h

/-- A pool that has room for all items at once collects them in whatever order their workers are
done. -/
theorem collect_any_order {m : Nat} {s s' : ς} {busy xs collected : List α}
    (room : busy.length + m ≤ limit) (h : drawMany draw m s = .ok (xs, s'))
    (order : collected.Perm (busy ++ xs)) :
    ∃ turns, collect draw limit turns (busy.length + m) s busy = .ok (some collected) := by
  generalize hn : busy.length + m = n at room
  induction n generalizing m s busy xs collected with
  | zero =>
    obtain ⟨empty, rfl⟩ := Nat.add_eq_zero_iff.mp hn
    rw [List.length_eq_zero_iff.mp empty] at order
    cases h
    exact ⟨.oldestFirst, by rw [collect, if_neg (Nat.ne_of_gt hlimit), order.eq_nil]⟩
  | succ n ih =>
    -- everything is drawn in the first turn, and nothing is left to draw in the later ones
    have portion : min limit (n + 1) - busy.length = m := by omega
    have nothing : drawMany draw 0 s' = .ok ([], s') := rfl
    have total : (busy ++ xs).length = n + 1 := by rw [List.length_append, length_drawMany h, hn]
    obtain ⟨y, ys, rfl⟩ := List.exists_cons_of_length_eq_add_one (order.length_eq.trans total)
    obtain ⟨i, hi, rfl⟩ := List.getElem_of_mem (order.subset List.mem_cons_self)
    have others : ys.Perm ((busy ++ xs).eraseIdx i ++ []) := by
      rw [List.append_nil]
      exact (order.trans (List.getElem_cons_eraseIdx_perm hi).symm).cons_inv
    have left : ((busy ++ xs).eraseIdx i).length + 0 = n := by
      rw [List.length_eraseIdx_of_lt hi, total]
      rfl
    obtain ⟨turns, rest⟩ := ih nothing others left (by omega)
    refine ⟨Function.update turns n i, ?_⟩
    have later : collect draw limit (Function.update turns n i) n s' ((busy ++ xs).eraseIdx i) =
        collect draw limit turns n s' ((busy ++ xs).eraseIdx i) :=
      collect_congr (fun k hk => Function.update_of_ne (Nat.ne_of_lt hk) i turns) _ _
    have turn : takeTurn (Function.update turns n i n) (busy ++ xs) =
        some ((busy ++ xs)[i], (busy ++ xs).eraseIdx i) := by
      rw [Function.update_self, takeTurn, Nat.mod_eq_of_lt hi, List.getElem?_eq_getElem hi]
      rfl
    rw [← portion] at h
    rw [collect_succ h turn, later, rest]
    rfl

end Workers

end Pool

/-! ## Rounds -/

/-- The rounds of a run are drawn one after the other. -/
theorem Generator.drawRounds_eq_drawMany {σ : Type} [WordSource σ] (numTasks pairs n : Nat)
    (g : Generator σ) :
    drawRounds numTasks pairs n g = do
      let drawn ← Pool.drawMany (drawRound numTasks pairs) n g
      return drawn.1 := by
  induction n generalizing g with
  | zero => rfl
  | succ n ih => simp [drawRounds, Pool.drawMany, ih]

namespace Config

variable {σ : Type} [WordSource σ] {c : Config} {source : σ}

/-- A run that may keep a worker busy collects the rounds that it draws, in some order. -/
theorem collectRounds_of_drawRounds (hworkers : 1 ≤ c.concurrency.toNat) {rounds : List Round}
    (h : c.drawRounds source = .ok rounds) (turns : Turns) :
    ∃ collected, c.collectRounds source turns = .ok (some collected) ∧ collected.Perm rounds := by
  rw [drawRounds, Generator.drawRounds_eq_drawMany] at h
  obtain ⟨_, drawn, h⟩ := bind_eq_ok_iff.mp h
  cases h
  have none : ([] : List Round).length ≤ c.concurrency.toNat := Nat.zero_le _
  have all := Pool.collect_perm hworkers turns none drawn
  rwa [List.length_nil, Nat.zero_add] at all

/-- A run that may keep a worker busy stops with the fault that stops its draws. -/
theorem collectRounds_of_fault (hworkers : 1 ≤ c.concurrency.toNat) {f : Fault}
    (h : c.drawRounds source = .error f) (turns : Turns) :
    c.collectRounds source turns = .error f := by
  rw [drawRounds, Generator.drawRounds_eq_drawMany] at h
  rcases bind_eq_error_iff.mp h with stopped | ⟨_, -, h⟩
  · have none : ([] : List Round).length ≤ c.concurrency.toNat := Nat.zero_le _
    have all := Pool.collect_fault hworkers turns none stopped
    rwa [List.length_nil, Nat.zero_add] at all
  · cases h

/-- A run that may keep no worker busy never ends. -/
theorem collectRounds_no_worker (hworkers : c.concurrency.toNat = 0) (source : σ) (turns : Turns) :
    c.collectRounds source turns = .ok none := by
  rw [collectRounds, hworkers, Pool.collect_no_worker]

end Config

end TaskReplicas
