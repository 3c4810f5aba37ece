import TaskReplicas.Proofs.DrawnOperations
import TaskReplicas.Proofs.Rulings
import TaskReplicas.Stress.Run

/-!
# What a run can and cannot draw

The operations of a run are drawn by one clock that stands still or moves on by a second, through
all of its rounds. So the times of its updates never decrease, and between two of them lies at most
a second for each operation (`Draws.paced`); and what the clock shows at the end of a round is no
earlier than any update until then (`DrawsRounds.upTo`).

Two rules of conflict never decide a pair of a run (`Draws.resolve_ne`). A create is drawn for a
task that is missing at the start and an update for one that is there, so the two never meet on one
task; and the second operation of a pair is never the earlier one.
-/

set_option autoImplicit false

namespace TaskReplicas

open Sampling (WordSource ChaCha)

/-- When an operation was made, if it is an update. -/
def Operation.madeAt? (op : Operation) : Option Timestamp := op.asUpdate?.map Update.timestamp

/-- Updates are made at a start or after it, never earlier than those before them, and with at most
a second for each operation in between. -/
def Paced (start : Timestamp) (ops : List Operation) : Prop :=
  ∀ (k m : Nat) (a b : Operation) (i j : Timestamp), k ≤ m →
    ops[k]? = some a → ops[m]? = some b → a.madeAt? = some i → b.madeAt? = some j →
    start.toInt ≤ i.toInt ∧ i.toInt ≤ j.toInt ∧ j.toInt ≤ i.toInt + (m - k : Nat)

/-! ## Times -/

/-- A clock that ticks moves by a second at most, and never back. -/
theorem Ticks.toInt_bounds {before now : Timestamp} (h : Ticks before now) :
    before.toInt ≤ now.toInt ∧ now.toInt ≤ before.toInt + 1 := by
  rcases h with h | h <;> omega

/-- An update is made at the time on the clock. -/
theorem Drawable.madeAt?_eq {numTasks : Nat} {now i : Timestamp} {op : Operation}
    (h : Drawable numTasks now op) (hi : op.madeAt? = some i) : i = now := by
  cases h with
  | create => cases hi
  | delete => cases hi
  | update => cases hi; rfl

namespace Draws

variable {numTasks : Nat} {before after : Timestamp} {ops : List Operation}

/-- The clock never moves back while operations are drawn. -/
theorem toInt_mono (h : Draws numTasks before ops after) : before.toInt ≤ after.toInt := by
  induction h with
  | nil now => exact Int.le_refl _
  | cons tick _ _ ih => exact Int.le_trans tick.toInt_bounds.1 ih

/-- A sequence of draws can be cut anywhere. -/
theorem of_append {A B : List Operation} (h : Draws numTasks before (A ++ B) after) :
    ∃ now, Draws numTasks before A now ∧ Draws numTasks now B after := by
  induction A generalizing before with
  | nil => exact ⟨before, .nil before, h⟩
  | cons op A ih =>
    cases h with
    | cons tick drawn rest =>
      obtain ⟨now, first, last⟩ := ih rest
      exact ⟨now, .cons tick drawn first, last⟩

/-- An update is made between what the clock shows before and after the draws, and at most a second
after the start for each operation up to it. -/
theorem madeAt?_bounds (h : Draws numTasks before ops after) {k : Nat} {op : Operation}
    {i : Timestamp} (hop : ops[k]? = some op) (hi : op.madeAt? = some i) :
    before.toInt ≤ i.toInt ∧ i.toInt ≤ before.toInt + (k + 1 : Nat) ∧ i.toInt ≤ after.toInt := by
  induction h generalizing k with
  | nil now => simp at hop
  | cons tick drawn rest ih =>
    obtain ⟨low, high⟩ := tick.toInt_bounds
    have bounded := rest.toInt_mono
    cases k with
    | zero =>
      rw [List.getElem?_cons_zero, Option.some.injEq] at hop
      subst hop
      rw [drawn.madeAt?_eq hi]
      omega
    | succ k =>
      rw [List.getElem?_cons_succ] at hop
      have later := ih hop
      omega

/-- Draws keep pace with the clock. The induction is on the draws: an update is compared with the
later ones when it is the first of those that are left. -/
theorem paced (h : Draws numTasks before ops after) : Paced before ops := by
  induction h with
  | nil now =>
    intro k m a b i j _ ha
    simp at ha
  | cons tick drawn rest ih =>
    intro k m a b i j hkm ha hb hi hj
    obtain ⟨low, high⟩ := tick.toInt_bounds
    cases k with
    | zero =>
      rw [List.getElem?_cons_zero, Option.some.injEq] at ha
      subst ha
      have first := drawn.madeAt?_eq hi
      cases m with
      | zero =>
        rw [List.getElem?_cons_zero, Option.some.injEq] at hb
        subst hb
        cases hi.symm.trans hj
        rw [first]
        omega
      | succ m =>
        rw [List.getElem?_cons_succ] at hb
        obtain ⟨later, soon, -⟩ := rest.madeAt?_bounds hb hj
        rw [first]
        omega
    | succ k =>
      cases m with
      | zero => omega
      | succ m =>
        rw [List.getElem?_cons_succ] at ha hb
        have later := ih k m a b i j (by omega) ha hb hi hj
        omega

/-- No pair that is drawn is an update and a create of one task, or an update and an earlier one. -/
theorem resolve_ne {a b : Operation} (h : Draws numTasks before [a, b] after) :
    (resolve a b).2 ≠ .updateOverCreate ∧ resolve a b ≠ (.keepFirst, .laterTimestamp) := by
  have ruling := ruling_resolve a b
  constructor
  · intro rule
    obtain ⟨_, drawnA⟩ := h.drawable (show a ∈ [a, b] by simp)
    obtain ⟨_, drawnB⟩ := h.drawable (show b ∈ [a, b] by simp)
    -- the seeded replica has the task of the one and lacks the task of the other
    have fitsA := drawnA.accepts
    have fitsB := drawnB.accepts
    rw [rule] at ruling
    generalize (resolve a b).1 = kept at ruling
    cases ruling with
    | createUpdate t p v i => exact Bool.false_ne_true (fitsA.symm.trans fitsB)
    | updateCreate t p v i => exact Bool.false_ne_true (fitsB.symm.trans fitsA)
  · intro rule
    rw [rule] at ruling
    cases ruling with
    | @laterFirst t p v w i j hv earlier =>
      obtain ⟨-, inOrder, -⟩ := h.paced 0 1 _ _ i j (by omega) rfl rfl rfl rfl
      rw [Int64.lt_iff_toInt_lt] at earlier
      omega

/-- The two operations of a pair are drawn one right after the other. -/
theorem of_mem {pairs : List (Operation × Operation)} {a b : Operation}
    (h : Draws numTasks before (operationsOf pairs) after) (hab : (a, b) ∈ pairs) :
    ∃ before after, Draws numTasks before [a, b] after := by
  obtain ⟨P, Q, rfl⟩ := List.append_of_mem hab
  have parts : operationsOf (P ++ (a, b) :: Q) = operationsOf P ++ ([a, b] ++ operationsOf Q) := by
    simp [operationsOf]
  rw [parts] at h
  obtain ⟨now, -, rest⟩ := h.of_append
  obtain ⟨now', pair, -⟩ := rest.of_append
  exact ⟨now, now', pair⟩

end Draws

/-! ## Rounds -/

namespace DrawsRounds

variable {numTasks : Nat} {before after : Timestamp} {rounds : List Round}

/-- The draws up to the end of a round, which is when the clock shows what the round notes. -/
theorem upTo {A B : List Round} {round : Round}
    (h : DrawsRounds numTasks before (A ++ round :: B) after) :
    Draws numTasks before (operationsIn (A ++ [round])) round.drawnAt := by
  induction A generalizing before with
  | nil =>
    cases h with
    | cons drawn rest =>
      simpa [operationsIn] using drawn
  | cons first A ih =>
    cases h with
    | cons drawn rest => exact drawn.append (ih rest)

/-- No pair of a round is an update and a create of one task, or an update and an earlier one. -/
theorem resolve_ne (h : DrawsRounds numTasks before rounds after) {round : Round}
    (hround : round ∈ rounds) {pair : Operation × Operation} (hpair : pair ∈ round.pairs) :
    (resolve pair.1 pair.2).2 ≠ .updateOverCreate ∧
      resolve pair.1 pair.2 ≠ (.keepFirst, .laterTimestamp) := by
  induction h with
  | nil now => cases hround
  | cons drawn _ ih =>
    rcases List.mem_cons.mp hround with rfl | hround
    · obtain ⟨_, _, inOrder⟩ := drawn.of_mem hpair
      exact inOrder.resolve_ne
    · exact ih hround

end DrawsRounds

/-- A round that does not fit into memory is not begun. -/
theorem Generator.drawRounds_too_large {σ : Type} [WordSource σ] {pairs n : Nat}
    (hp : 2 ^ 63 ≤ pairs * pairSize) (hn : n ≠ 0) (numTasks : Nat) (g : Generator σ) :
    drawRounds numTasks pairs n g = .error .capacityOverflow := by
  cases n with
  | zero => exact absurd rfl hn
  | succ n =>
    unfold drawRounds drawRound
    rw [if_pos hp]
    rfl

namespace Config

variable {σ : Type} [WordSource σ]

/-- A run draws all of its rounds, with a clock that cannot leave its range and with rounds that fit
into memory, where there are any. -/
theorem drawRounds_ok (c : Config) (source : σ) (htasks : 1 ≤ c.numTasks.toNat)
    (hclock : 1000000 + 2 * c.pairsPerRound.toNat * c.rounds.toNat < 2 ^ 63)
    (hround : c.rounds.toNat = 0 ∨ c.pairsPerRound.toNat * pairSize < 2 ^ 63) :
    ∃ rounds after, c.drawRounds source = .ok rounds ∧ rounds.length = c.rounds.toNat ∧
      (∀ round ∈ rounds, round.pairs.length = c.pairsPerRound.toNat) ∧
      DrawsRounds c.numTasks.toNat 1000000 rounds after := by
  have start : (Generator.start source).clock.reading.toInt = 1000000 := rfl
  exact Generator.drawRounds_history (g := .start source) htasks c.rounds.toNat hround (by omega)

/-- **What a run can and cannot draw.** With at least one task, a clock that cannot leave its range
and rounds that fit into memory, where there are any, a run draws so many rounds of so many pairs,
whatever its random words are. Each operation is a create or a delete of a task with an odd number
or a delete or an update of one with an even number, that number is below the number of tasks, and
an update has its property and its value from the pools. In the order in which they are drawn, the
updates are paced from the start of the clock on; what a round logs as the time at its end is no
earlier than any update until then; and no pair is decided for an update against a create, or for
its first operation as the later one. Rounds that do not fit into memory are not drawn at all. -/
theorem drawRounds_paced (c : Config) (source : σ) (htasks : 1 ≤ c.numTasks.toNat)
    (hclock : 1000000 + 2 * c.pairsPerRound.toNat * c.rounds.toNat < 2 ^ 63) :
    (c.rounds.toNat = 0 ∨ c.pairsPerRound.toNat * pairSize < 2 ^ 63 →
      ∃ rounds, c.drawRounds source = .ok rounds ∧ rounds.length = c.rounds.toNat ∧
        (∀ round ∈ rounds, round.pairs.length = c.pairsPerRound.toNat) ∧
        (∀ op ∈ operationsIn rounds, ∃ now, Drawable c.numTasks.toNat now op) ∧
        Paced 1000000 (operationsIn rounds) ∧
        (∀ A round B, rounds = A ++ round :: B →
          ∃ now, round.event = .roundDrawn c.pairsPerRound.toNat now ∧
            ∀ op ∈ operationsIn (A ++ [round]), ∀ i, op.madeAt? = some i →
              i.toInt ≤ now.toInt) ∧
        ∀ round ∈ rounds, ∀ pair ∈ round.pairs,
          (resolve pair.1 pair.2).2 ≠ .updateOverCreate ∧
            resolve pair.1 pair.2 ≠ (.keepFirst, .laterTimestamp)) ∧
    (c.rounds.toNat ≠ 0 → 2 ^ 63 ≤ c.pairsPerRound.toNat * pairSize →
      c.drawRounds source = .error .capacityOverflow) := by
  constructor
  · intro hround
    obtain ⟨rounds, after, drawn, count, sizes, history⟩ :=
      c.drawRounds_ok source htasks hclock hround
    refine ⟨rounds, drawn, count, sizes, ?_, history.draws.paced, ?_, ?_⟩
    · intro op hop
      exact history.draws.drawable hop
    · rintro A round B rfl
      refine ⟨round.drawnAt, ?_, ?_⟩
      · rw [Round.event, sizes round (by simp)]
      · intro op hop i hi
        obtain ⟨k, hk⟩ := List.mem_iff_getElem?.mp hop
        exact (history.upTo.madeAt?_bounds hk hi).2.2
    · intro round hr pair hp
      exact history.resolve_ne hr hp
  · intro hn hp
    exact Generator.drawRounds_too_large hp hn _ _

/-- Five rounds of 200 pairs over four tasks, from the words of seed 7. -/
theorem drawRounds_paced_seven :
    let c := ofSettings [.numTasks 4, .pairsPerRound 200, .rounds 5, .seed 7]
    1 ≤ c.numTasks.toNat ∧ 1000000 + 2 * c.pairsPerRound.toNat * c.rounds.toNat < 2 ^ 63 ∧
      c.pairsPerRound.toNat * pairSize < 2 ^ 63 ∧
      ∃ rounds, c.drawRounds (ChaCha.ofSeed 7) = .ok rounds ∧ rounds.length = 5 ∧
        (∀ round ∈ rounds, round.pairs.length = 200) ∧ Paced 1000000 (operationsIn rounds) := by
  intro c
  have htasks : 1 ≤ c.numTasks.toNat := by decide
  have hclock : 1000000 + 2 * c.pairsPerRound.toNat * c.rounds.toNat < 2 ^ 63 := by decide
  have hround : c.pairsPerRound.toNat * pairSize < 2 ^ 63 := by decide
  obtain ⟨rounds, drawn, count, sizes, -, paced, -⟩ :=
    (drawRounds_paced c (ChaCha.ofSeed 7) htasks hclock).1 (.inr hround)
  exact ⟨htasks, hclock, hround, rounds, drawn, count, sizes, paced⟩

/-- The clock alone does not suffice: the least number of pairs that does not fit into memory gives
no round. -/
theorem drawRounds_beyond_memory :
    let c : Config :=
      { numTasks := 16, pairsPerRound := 57646075230342349, rounds := 1, seed := some 6 }
    1 ≤ c.numTasks.toNat ∧ 1000000 + 2 * c.pairsPerRound.toNat * c.rounds.toNat < 2 ^ 63 ∧
      ¬ ∃ rounds, c.drawRounds (ChaCha.ofSeed 6) = .ok rounds ∧
        rounds.length = c.rounds.toNat := by
  intro c
  have stopped : c.drawRounds (ChaCha.ofSeed 6) = .error .capacityOverflow :=
    Generator.drawRounds_too_large (by decide) (by decide) _ _
  refine ⟨by decide, by decide, ?_⟩
  rintro ⟨rounds, drawn, -⟩
  rw [stopped] at drawn
  cases drawn

end Config

end TaskReplicas
