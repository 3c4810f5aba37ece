import TaskReplicas.Proofs.SeededTasks
import TaskReplicas.Stress.Generator

/-!
# What is drawn

`Drawable` lists every operation that can be drawn for a number of tasks while the clock shows an
instant, and `Draws` the sequences of them: before each operation the clock stands still or moves on
by a second. Whatever the random words are, drawing an operation, a pair, a round and a whole run
gives such a sequence (`Generator.drawOperation_spec` and the lemmas after it), as long as the clock
cannot leave its range; everything else that is known of what is drawn follows from that.
-/

set_option autoImplicit false

namespace TaskReplicas

open Sampling (WordSource below32 below64 below32_lt below64_lt chance)

/-- The operations that can be drawn for a number of tasks while the clock shows an instant. -/
inductive Drawable (numTasks : Nat) (now : Timestamp) : Operation → Prop
  | create {i : Nat} (hi : i < numTasks) (odd : i % 2 = 1) :
      Drawable numTasks now (.create (taskId i))
  | delete {i : Nat} (hi : i < numTasks) : Drawable numTasks now (.delete (taskId i))
  | update {i : Nat} {p : String} {v : Option String} (hi : i < numTasks) (even : i % 2 = 0)
      (hp : p ∈ propertyPool) (hv : ∀ x, v = some x → x ∈ valuePool) :
      Drawable numTasks now (.update (taskId i) p v now)

/-- The clock stands still or moves on by a second. -/
def Ticks (before after : Timestamp) : Prop :=
  after.toInt = before.toInt ∨ after.toInt = before.toInt + 1

/-- Operations that can be drawn one after the other by a clock that shows one instant before the
first of them and another one after the last. -/
inductive Draws (numTasks : Nat) : Timestamp → List Operation → Timestamp → Prop
  | nil (now : Timestamp) : Draws numTasks now [] now
  | cons {before now after : Timestamp} {op : Operation} {ops : List Operation}
      (tick : Ticks before now) (drawn : Drawable numTasks now op)
      (rest : Draws numTasks now ops after) : Draws numTasks before (op :: ops) after

/-- The operations of pairs, in the order in which they are drawn. -/
def operationsOf (pairs : List (Operation × Operation)) : List Operation :=
  pairs.flatMap fun (a, b) => [a, b]

/-- Each pair has two operations. -/
theorem length_operationsOf (pairs : List (Operation × Operation)) :
    (operationsOf pairs).length = 2 * pairs.length := by
  induction pairs with
  | nil => rfl
  | cons pair pairs ih =>
    rw [operationsOf, List.flatMap_cons, List.length_append, ← operationsOf, ih, List.length_cons,
      List.length_cons, List.length_cons, List.length_nil]
    omega

/-- The operations of pairs are the first and the second ones. -/
theorem mem_operationsOf {pairs : List (Operation × Operation)} {op : Operation} :
    op ∈ operationsOf pairs ↔ ∃ pair ∈ pairs, op = pair.1 ∨ op = pair.2 := by
  simp [operationsOf]

/-- What can be drawn fits the seeded replica: the parity of its number decides whether a task is
there, and what is drawn for the task goes by the same parity. -/
theorem Drawable.accepts {numTasks : Nat} {now : Timestamp} {op : Operation}
    (h : Drawable numTasks now op) : (Replica.seeded numTasks).Accepts op := by
  cases h with
  | create hi odd =>
    show (Replica.seeded numTasks).holds _ = false
    rw [Replica.holds_seeded_taskId, decide_eq_false_iff_not]
    omega
  | delete hi => trivial
  | update hi even hp hv =>
    show (Replica.seeded numTasks).holds _ = true
    rw [Replica.holds_seeded_taskId, decide_eq_true_iff]
    exact ⟨hi, even⟩

namespace Draws

variable {numTasks : Nat}

/-- What is drawn after a sequence goes on with it. -/
theorem append {before now after : Timestamp} {ops ops' : List Operation}
    (h : Draws numTasks before ops now) (h' : Draws numTasks now ops' after) :
    Draws numTasks before (ops ++ ops') after := by
  induction h with
  | nil now => exact h'
  | cons tick drawn _ ih => exact .cons tick drawn (ih h')

/-- Each operation of a sequence could be drawn when the clock showed some instant. -/
theorem drawable {before after : Timestamp} {ops : List Operation}
    (h : Draws numTasks before ops after) {op : Operation} (hop : op ∈ ops) :
    ∃ now, Drawable numTasks now op := by
  induction h with
  | nil now => cases hop
  | @cons _ now _ _ _ tick drawn _ ih =>
    rcases List.mem_cons.mp hop with rfl | hop
    · exact ⟨now, drawn⟩
    · exact ih hop

/-- A sequence of draws takes at most a second for each operation. -/
theorem toInt_le {before after : Timestamp} {ops : List Operation}
    (h : Draws numTasks before ops after) : after.toInt ≤ before.toInt + ops.length := by
  induction h with
  | nil now => simp
  | cons tick _ _ ih =>
    rw [List.length_cons]
    rcases tick with tick | tick <;> omega

end Draws

/-- Rounds that can be drawn one after the other, each noting what the clock showed at its end. -/
inductive DrawsRounds (numTasks : Nat) : Timestamp → List Round → Timestamp → Prop
  | nil (now : Timestamp) : DrawsRounds numTasks now [] now
  | cons {before after : Timestamp} {round : Round} {rounds : List Round}
      (drawn : Draws numTasks before (operationsOf round.pairs) round.drawnAt)
      (rest : DrawsRounds numTasks round.drawnAt rounds after) :
      DrawsRounds numTasks before (round :: rounds) after

/-- The operations of rounds, in the order in which they are drawn. -/
def operationsIn (rounds : List Round) : List Operation :=
  rounds.flatMap fun round => operationsOf round.pairs

/-- The operations of rounds are one sequence, through all of them. -/
theorem DrawsRounds.draws {numTasks : Nat} {before after : Timestamp} {rounds : List Round}
    (h : DrawsRounds numTasks before rounds after) :
    Draws numTasks before (operationsIn rounds) after := by
  induction h with
  | nil now => exact .nil now
  | cons drawn _ ih => exact drawn.append ih

namespace Generator

variable {σ : Type} [WordSource σ] {numTasks : Nat}

/-! ## Single draws -/

/-- What is chosen from a pool that holds something is in the pool. -/
theorem choose_mem (pool : List String) (h : 0 < pool.length) (default : String) (source : σ) :
    (choose pool default source).1 ∈ pool := by
  have hi : (below32 pool.length source).1 < pool.length := below32_lt h source
  show pool[(below32 pool.length source).1]?.getD default ∈ pool
  rw [List.getElem?_eq_getElem hi, Option.getD_some]
  exact List.getElem_mem hi

/-- A second can be added to a reading that is not the last one. -/
theorem checkedAdd_one {now : Timestamp} (h : now.toInt + 1 < 2 ^ 63) :
    Timestamp.checkedAdd now 1 = .ok (now + 1) ∧ (now + 1).toInt = now.toInt + 1 := by
  have least : -2 ^ 63 ≤ now.toInt := now.le_toInt
  constructor
  · rw [Timestamp.checkedAdd, if_pos]
    rw [Int64.toInt_one]
    omega
  · rw [Int64.toInt_add, Int64.toInt_one, Int.bmod_eq_of_le] <;> omega

/-- Ticking moves the clock on by a second or leaves it alone. -/
theorem tick_spec {g : Generator σ} (h : g.clock.reading.toInt + 1 < 2 ^ 63) :
    ∃ g', g.tick = .ok g' ∧ Ticks g.clock.reading g'.clock.reading := by
  obtain ⟨sum, moved⟩ := checkedAdd_one h
  unfold tick ManualClock.advance
  obtain ⟨moves, source⟩ := chance sevenTenths g.source
  cases moves with
  | true =>
    rw [sum]
    exact ⟨⟨source, ⟨g.clock.reading + 1⟩⟩, rfl, .inr moved⟩
  | false => exact ⟨{ g with source }, rfl, .inl rfl⟩

/-- A create or a delete is drawn for a task with an odd number. -/
theorem drawForMissing_drawable {i : Nat} (hi : i < numTasks) (odd : i % 2 = 1) (now : Timestamp)
    (source : σ) : Drawable numTasks now (drawForMissing (taskId i) source).1 := by
  unfold drawForMissing
  obtain ⟨creates, source⟩ := chance oneHalf source
  cases creates with
  | true => exact .create hi odd
  | false => exact .delete hi

/-- An update is drawn with a property and a value of the pools, and the time on the clock. -/
theorem drawUpdate_drawable {i : Nat} (hi : i < numTasks) (even : i % 2 = 0) (clock : ManualClock)
    (source : σ) : Drawable numTasks clock.reading (drawUpdate (taskId i) clock source).1 := by
  have hp := choose_mem propertyPool (by decide) "description" source
  unfold drawUpdate
  generalize choose propertyPool "description" source = drawn at hp ⊢
  obtain ⟨property, source⟩ := drawn
  dsimp only at hp ⊢
  obtain ⟨clears, source⟩ := chance oneFifth source
  cases clears with
  | true => exact .update hi even hp nofun
  | false =>
    refine .update hi even hp ?_
    rintro value ⟨⟩
    exact choose_mem valuePool (by decide) "a" source

/-- A delete or an update is drawn for a task with an even number. -/
theorem drawForPresent_drawable {i : Nat} (hi : i < numTasks) (even : i % 2 = 0)
    (clock : ManualClock) (source : σ) :
    Drawable numTasks clock.reading (drawForPresent (taskId i) clock source).1 := by
  unfold drawForPresent
  obtain ⟨deletes, source⟩ := chance oneTenth source
  cases deletes with
  | true => exact .delete hi
  | false =>
    simp only [Bool.false_eq_true, if_false]
    exact drawUpdate_drawable hi even clock source

/-- Whatever the parity of a task's number, what is drawn for the task can be drawn. -/
theorem drawForParity_drawable {i : Nat} (hi : i < numTasks) (clock : ManualClock) (source : σ) :
    Drawable numTasks clock.reading (if i % 2 = 1 then drawForMissing (taskId i) source
      else drawForPresent (taskId i) clock source).1 := by
  by_cases odd : i % 2 = 1
  · rw [if_pos odd]
    exact drawForMissing_drawable hi odd clock.reading source
  · rw [if_neg odd]
    exact drawForPresent_drawable hi (by omega) clock source

/-! ## Operations, pairs and rounds -/

/-- An operation can always be drawn, and what is drawn is one of the operations that can be. -/
theorem drawOperation_spec {g : Generator σ} (hn : 0 < numTasks)
    (hc : g.clock.reading.toInt + 1 < 2 ^ 63) :
    ∃ op g', g.drawOperation numTasks = .ok (op, g') ∧
      Ticks g.clock.reading g'.clock.reading ∧ Drawable numTasks g'.clock.reading op := by
  have hi : (below64 numTasks g.source).1 < numTasks := below64_lt hn g.source
  unfold drawOperation drawTask
  rw [if_neg (by omega)]
  generalize below64 numTasks g.source = drawn at hi ⊢
  obtain ⟨i, source⟩ := drawn
  dsimp only at hi ⊢
  obtain ⟨g', ticked, moved⟩ := tick_spec (g := { g with source }) hc
  -- The draws are rewritten one by one: unfolding them all at once would have the kernel compare
  -- them by counting down how often a word may be rejected.
  rw [ok_bind]
  dsimp only
  rw [ticked, ok_bind]
  have drawn := drawForParity_drawable hi g'.clock g'.source
  generalize (if i % 2 = 1 then drawForMissing (taskId i) g'.source
    else drawForPresent (taskId i) g'.clock g'.source) = result at drawn ⊢
  obtain ⟨op, source⟩ := result
  exact ⟨op, { g' with source }, rfl, moved, drawn⟩

/-- A pair is two operations drawn one after the other. -/
theorem drawPair_spec {g : Generator σ} (hn : 0 < numTasks)
    (hc : g.clock.reading.toInt + 2 < 2 ^ 63) :
    ∃ pair g', g.drawPair numTasks = .ok (pair, g') ∧
      Draws numTasks g.clock.reading [pair.1, pair.2] g'.clock.reading := by
  obtain ⟨a, g₁, first, moved, drawn⟩ := drawOperation_spec (g := g) hn (by omega)
  have hc₁ : g₁.clock.reading.toInt + 1 < 2 ^ 63 := by
    rcases moved with moved | moved <;> omega
  obtain ⟨b, g₂, second, moved₁, drawn₁⟩ := drawOperation_spec hn hc₁
  refine ⟨(a, b), g₂, ?_, .cons moved drawn (.cons moved₁ drawn₁ (.nil _))⟩
  simp only [drawPair, ok_bind, first, second]
  rfl

/-- So many pairs can always be drawn, and are drawn one after the other. The induction keeps the
room that the clock needs for the pairs that are still to come. -/
theorem drawPairsAfter_spec (hn : 0 < numTasks) (before : List (Operation × Operation)) (n : Nat)
    {g : Generator σ} (hc : g.clock.reading.toInt + 2 * n < 2 ^ 63) :
    ∃ pairs g', drawPairsAfter numTasks before n g = .ok (before.reverse ++ pairs, g') ∧
      pairs.length = n ∧
      Draws numTasks g.clock.reading (operationsOf pairs) g'.clock.reading := by
  induction n generalizing before g with
  | zero => exact ⟨[], g, by rw [drawPairsAfter, List.append_nil], rfl, .nil _⟩
  | succ n ih =>
    obtain ⟨pair, g₁, one, drawn⟩ := drawPair_spec (g := g) hn (by omega)
    have hc₁ : g₁.clock.reading.toInt + 2 * n < 2 ^ 63 := by
      have moved := drawn.toInt_le
      simp only [List.length_cons, List.length_nil] at moved
      omega
    obtain ⟨pairs, g₂, rest, length, drawn₁⟩ := ih (pair :: before) hc₁
    refine ⟨pair :: pairs, g₂, ?_, by rw [List.length_cons, length], drawn.append drawn₁⟩
    rw [drawPairsAfter, one]
    dsimp only
    rw [rest, List.reverse_cons, List.append_assoc, List.singleton_append]

/-- Rounds that fit into memory can always be drawn: so many, each of so many pairs, one after the
other. Where there are no rounds, their size is never looked at. -/
theorem drawRounds_history (hn : 0 < numTasks) {pairs : Nat} (n : Nat)
    (hp : n = 0 ∨ pairs * pairSize < 2 ^ 63) {g : Generator σ}
    (hc : g.clock.reading.toInt + (2 * pairs * n : Nat) < 2 ^ 63) :
    ∃ rounds after, drawRounds numTasks pairs n g = .ok rounds ∧ rounds.length = n ∧
      (∀ round ∈ rounds, round.pairs.length = pairs) ∧
      DrawsRounds numTasks g.clock.reading rounds after := by
  induction n generalizing g with
  | zero => exact ⟨[], g.clock.reading, rfl, rfl, nofun, .nil _⟩
  | succ n ih =>
    have fits : pairs * pairSize < 2 ^ 63 := hp.resolve_left (Nat.succ_ne_zero n)
    have room : 2 * pairs * (n + 1) = 2 * pairs * n + 2 * pairs := Nat.mul_succ _ _
    obtain ⟨drawn, g₁, all, length, draws⟩ :=
      drawPairsAfter_spec hn [] pairs (g := g) (by omega)
    have hc₁ : g₁.clock.reading.toInt + (2 * pairs * n : Nat) < 2 ^ 63 := by
      have moved := draws.toInt_le
      rw [length_operationsOf, length] at moved
      omega
    obtain ⟨rounds, after, rest, count, sizes, history⟩ := ih (.inr fits) hc₁
    refine ⟨⟨drawn, g₁.clock.reading⟩ :: rounds, after, ?_, by rw [List.length_cons, count], ?_,
      .cons draws history⟩
    · rw [List.reverse_nil, List.nil_append] at all
      unfold drawRounds drawRound drawPairs
      rw [if_neg (by omega)]
      simp only [ok_bind, all, pure, Except.pure, rest]
    · intro round hround
      rcases List.mem_cons.mp hround with rfl | hround
      · exact length
      · exact sizes round hround

end Generator

end TaskReplicas
