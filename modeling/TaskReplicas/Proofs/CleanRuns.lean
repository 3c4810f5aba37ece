import TaskReplicas.Proofs.Convergence
import TaskReplicas.Proofs.DrawnRounds
import TaskReplicas.Proofs.WorkerPool

/-!
# Runs in which nothing diverges

Outcomes add up to the same total in whatever order they come (`Outcome.total_perm`), so what a run
counts does not depend on the order in which its workers are done. `Clean` says what is right for a
number of pairs: all are counted, each with both of its operations, and none diverged. One pair that
fits the seeded replica has a clean outcome, clean outcomes add up to clean ones, and what is drawn
always fits; so a run whose clock and memory suffice has a clean total (`Config.total_clean`), with
any random words and in any order of its rounds.
-/

set_option autoImplicit false

namespace TaskReplicas

open Sampling (WordSource ChaCha)

namespace Outcome

/-! ## Totals -/

/-- Outcomes may be added in groups. -/
theorem add_assoc (a b c : Outcome) : a + b + c = a + (b + c) := by
  show Outcome.mk _ _ _ _ _ = Outcome.mk _ _ _ _ _
  rw [mk.injEq]
  refine ⟨?_, ?_, ?_, ?_, ?_⟩ <;> exact Nat.add_assoc _ _ _

/-- Two outcomes may be added in either order. -/
theorem add_comm (a b : Outcome) : a + b = b + a := by
  show Outcome.mk _ _ _ _ _ = Outcome.mk _ _ _ _ _
  rw [mk.injEq]
  refine ⟨?_, ?_, ?_, ?_, ?_⟩ <;> exact Nat.add_comm _ _

/-- The first outcome of a list may be added at the end. -/
theorem total_cons (o : Outcome) (os : List Outcome) : total (o :: os) = total os + o := by
  have swap (a b c : Outcome) : a + b + c = a + c + b := by
    rw [add_assoc, add_comm b c, add_assoc]
  have moved (start : Outcome) : os.foldl (· + ·) (start + o) = os.foldl (· + ·) start + o := by
    induction os generalizing start with
    | nil => rfl
    | cons b os ih =>
      rw [List.foldl_cons, List.foldl_cons, swap start o b, ih]
  exact moved {}

/-- Nothing counted adds nothing. -/
theorem zero_add (o : Outcome) : {} + o = o := by
  show Outcome.mk _ _ _ _ _ = o
  simp only [Nat.zero_add]

/-- Two rows of outcomes have the totals of both together. -/
theorem total_append (os os' : List Outcome) : total (os ++ os') = total os + total os' := by
  induction os with
  | nil => exact (zero_add _).symm
  | cons o os ih =>
    rw [List.cons_append, total_cons, total_cons, ih, add_assoc, add_assoc, add_comm (total os') o]

/-- Outcomes have the same total in every order. -/
theorem total_perm {os os' : List Outcome} (h : os.Perm os') : total os = total os' := by
  induction h with
  | nil => rfl
  | cons o _ ih => rw [total_cons, total_cons, ih]
  | swap a b os =>
    rw [total_cons, total_cons, total_cons, total_cons, add_assoc, add_assoc, add_comm a b]
  | trans _ _ ih ih' => exact ih.trans ih'

/-! ## Clean outcomes -/

/-- What is right for so many pairs: all are counted, both operations of each either survived or did
not, and no pair diverged. -/
structure Clean (n : Nat) (o : Outcome) : Prop where
  pairs : o.pairs = n
  operations : o.kept + o.suppressed = 2 * n
  divergences : o.divergences = 0

/-- Clean outcomes add up to a clean outcome. -/
theorem Clean.add {n m : Nat} {a b : Outcome} (ha : a.Clean n) (hb : b.Clean m) :
    (a + b).Clean (n + m) := by
  constructor
  · show a.pairs + b.pairs = n + m
    rw [ha.pairs, hb.pairs]
  · show a.kept + b.kept + (a.suppressed + b.suppressed) = 2 * (n + m)
    have := ha.operations
    have := hb.operations
    omega
  · show a.divergences + b.divergences = 0
    rw [ha.divergences, hb.divergences]

/-- The total of outcomes that are clean for the same number of pairs is clean for all of them. -/
theorem clean_total {n : Nat} {os : List Outcome} (h : ∀ o ∈ os, Clean n o) :
    Clean (n * os.length) (total os) := by
  induction os with
  | nil => exact ⟨rfl, rfl, rfl⟩
  | cons o os ih =>
    rw [total_cons, List.length_cons, Nat.mul_succ]
    exact (ih fun x hx => h x (List.mem_cons_of_mem _ hx)).add (h o List.mem_cons_self)

end Outcome

/-! ## Rounds -/

/-- Pairs checked in one round count what they count in two. -/
theorem checkRound_append (start : Replica) (pairs pairs' : List (Operation × Operation)) :
    (checkRound start (pairs ++ pairs')).1 =
      (checkRound start pairs).1 + (checkRound start pairs').1 := by
  simp only [checkRound, List.map_append, Outcome.total_append]

/-- Of two operations, at most two survive. -/
theorem survivors_le (t : Transformed) : survivors t ≤ 2 := by
  have first := Bool.toNat_le t.1.isSome
  have second := Bool.toNat_le t.2.isSome
  rw [survivors]
  omega

/-- A pair that fits a replica has a clean outcome on it. -/
theorem clean_checkPair {start : Replica} {a b : Operation} (ha : start.Accepts a)
    (hb : start.Accepts b) : (checkPair start (a, b)).1.Clean 1 := by
  constructor
  · rfl
  · show survivors (transform a b) + (2 - survivors (transform a b)) = 2 * 1
    have := survivors_le (transform a b)
    omega
  · show (start.diverges a b).toNat = 0
    have met := Replica.firstThenRest_eq_of_accepts ha hb
    rw [Replica.diverges, decide_eq_false (not_not_intro met)]
    rfl

/-- A round of pairs that fit a replica has a clean outcome on it. -/
theorem clean_checkRound {start : Replica} {pairs : List (Operation × Operation)}
    (h : ∀ op ∈ operationsOf pairs, start.Accepts op) :
    (checkRound start pairs).1.Clean pairs.length := by
  have each : ∀ o ∈ (pairs.map (checkPair start)).map Prod.fst, Outcome.Clean 1 o := by
    rw [List.map_map]
    intro o ho
    obtain ⟨pair, hpair, rfl⟩ := List.mem_map.mp ho
    have first : start.Accepts pair.1 := h _ (mem_operationsOf.mpr ⟨pair, hpair, .inl rfl⟩)
    have second : start.Accepts pair.2 := h _ (mem_operationsOf.mpr ⟨pair, hpair, .inr rfl⟩)
    exact clean_checkPair first second
  have all := Outcome.clean_total each
  rw [List.length_map, List.length_map, Nat.one_mul] at all
  exact all

namespace Config

variable {σ : Type} [WordSource σ]

/-! ## Workers -/

section Workers

variable {c : Config} {source : σ}

/-- A run that may keep a worker busy collects the outcomes of the rounds that it draws, in some
order. -/
theorem outcomes_of_drawRounds (hworkers : 1 ≤ c.concurrency.toNat) {rounds : List Round}
    (h : c.drawRounds source = .ok rounds) (turns : Turns) :
    ∃ os, c.outcomes source turns = .ok (some os) ∧ os.Perm (rounds.map fun round =>
      (checkRound (.seeded c.numTasks.toNat) round.pairs).1) := by
  obtain ⟨collected, all, order⟩ := collectRounds_of_drawRounds hworkers h turns
  refine ⟨_, ?_, order.map _⟩
  rw [outcomes, all]
  rfl

/-- A run that may keep no worker busy collects no outcomes and never ends. -/
theorem outcomes_no_worker (hworkers : c.concurrency.toNat = 0) (source : σ) (turns : Turns) :
    c.outcomes source turns = .ok none := by
  rw [outcomes, collectRounds_no_worker hworkers]
  rfl

/-- A run counts the total of the outcomes that it collects. -/
theorem run_of_outcomes {turns : Turns} {os : List Outcome}
    (h : c.outcomes source turns = .ok (some os)) :
    c.run source turns = .ok (some (Outcome.total os)) := by
  rw [run, h]
  rfl

/-- A run that may keep no worker busy counts nothing and never ends. -/
theorem run_no_worker (hworkers : c.concurrency.toNat = 0) (source : σ) (turns : Turns) :
    c.run source turns = .ok none := by
  rw [run, outcomes_no_worker hworkers]
  rfl

/-- A run that may keep a worker busy counts the total of the outcomes of the rounds that it draws,
in whatever turns its workers are done. -/
theorem run_of_drawRounds (hworkers : 1 ≤ c.concurrency.toNat) {rounds : List Round}
    (h : c.drawRounds source = .ok rounds) (turns : Turns) :
    c.run source turns = .ok (some (Outcome.total (rounds.map fun round =>
      (checkRound (.seeded c.numTasks.toNat) round.pairs).1))) := by
  obtain ⟨os, all, order⟩ := outcomes_of_drawRounds hworkers h turns
  rw [run_of_outcomes all, Outcome.total_perm order]

/-- A run that may keep a worker busy stops with the fault that stops its draws. -/
theorem run_of_fault (hworkers : 1 ≤ c.concurrency.toNat) {f : Fault}
    (h : c.drawRounds source = .error f) (turns : Turns) : c.run source turns = .error f := by
  rw [run, outcomes, collectRounds_of_fault hworkers h]
  rfl

end Workers

/-! ## Clean runs -/

/-- A run that its clock and its memory can hold draws all its rounds, and their outcomes have a
clean total. -/
theorem total_clean (c : Config) (source : σ) (htasks : 1 ≤ c.numTasks.toNat)
    (hclock : 1000000 + 2 * c.pairsPerRound.toNat * c.rounds.toNat < 2 ^ 63)
    (hround : c.rounds.toNat = 0 ∨ c.pairsPerRound.toNat * pairSize < 2 ^ 63) :
    ∃ rounds, c.drawRounds source = .ok rounds ∧ rounds.length = c.rounds.toNat ∧
      (Outcome.total (rounds.map fun round =>
        (checkRound (.seeded c.numTasks.toNat) round.pairs).1)).Clean
        (c.pairsPerRound.toNat * c.rounds.toNat) := by
  obtain ⟨rounds, _, drawn, count, sizes, history⟩ := c.drawRounds_ok source htasks hclock hround
  have each : ∀ round ∈ rounds,
      (checkRound (.seeded c.numTasks.toNat) round.pairs).1.Clean c.pairsPerRound.toNat := by
    intro round hr
    rw [← sizes round hr]
    refine clean_checkRound fun op hop => ?_
    obtain ⟨now, drawable⟩ := history.draws.drawable (List.mem_flatMap.mpr ⟨round, hr, hop⟩)
    exact drawable.accepts
  have total := Outcome.clean_total (List.forall_mem_map.mpr each)
  rw [List.length_map, count] at total
  exact ⟨rounds, drawn, count, total⟩

end Config

end TaskReplicas
