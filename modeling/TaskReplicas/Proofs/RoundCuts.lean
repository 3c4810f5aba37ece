import TaskReplicas.Proofs.CleanRuns
import TaskReplicas.Proofs.DrawnRounds

/-!
# How pairs are cut into rounds

A run draws its pairs one after the other, and rounds only say where to cut. Drawing goes on where
it was left (`Generator.drawPairs_add`), so all rounds of a run together are as many pairs drawn at
once (`Generator.drawPairs_of_drawRounds`), and of two runs with the same random words the shorter
one is the beginning of the longer one (`Generator.drawRounds_prefix`). What is counted adds up in
the same way: a run counts what one round of all its pairs would count (`Config.run_eq_one_round`).
-/

set_option autoImplicit false

namespace TaskReplicas

open Sampling (WordSource ChaCha Key)

/-! ## Drawing on -/

namespace Generator

variable {σ : Type} [WordSource σ] {numTasks : Nat}

/-- Behind the pairs that were drawn before, drawing goes on where it was left. -/
theorem drawPairsAfter_add (before : List (Operation × Operation)) (m n : Nat) (g : Generator σ) :
    drawPairsAfter numTasks before (m + n) g =
      drawPairsAfter numTasks before m g >>= fun drawn =>
        drawPairsAfter numTasks drawn.1.reverse n drawn.2 := by
  induction m generalizing before g with
  | zero =>
    rw [Nat.zero_add, drawPairsAfter, ok_bind]
    simp only [List.reverse_reverse]
  | succ m ih =>
    rw [Nat.succ_add, drawPairsAfter, drawPairsAfter]
    cases g.drawPair numTasks with
    | ok drawn => exact ih (drawn.1 :: before) drawn.2
    | error f => rfl

/-- What was drawn before stands in front of what is drawn, and has no other part in it. -/
theorem drawPairsAfter_eq (before : List (Operation × Operation)) (n : Nat) (g : Generator σ) :
    drawPairsAfter numTasks before n g =
      (drawPairs numTasks n g).map fun drawn => (before.reverse ++ drawn.1, drawn.2) := by
  unfold drawPairs
  induction n generalizing before g with
  | zero => simp [drawPairsAfter, Except.map]
  | succ n ih =>
    rw [drawPairsAfter, drawPairsAfter]
    cases g.drawPair numTasks with
    | ok drawn =>
      dsimp only
      rw [ih (drawn.1 :: before), ih [drawn.1]]
      cases drawPairsAfter numTasks [] n drawn.2 with
      | ok rest => simp [Except.map]
      | error f => rfl
    | error f => rfl

/-- Drawing goes on where it was left. -/
theorem drawPairs_add {m : Nat} (n : Nat) {g g₁ : Generator σ}
    {first : List (Operation × Operation)} (h : drawPairs numTasks m g = .ok (first, g₁)) :
    drawPairs numTasks (m + n) g =
      (drawPairs numTasks n g₁).map fun rest => (first ++ rest.1, rest.2) := by
  unfold drawPairs at h
  rw [drawPairs, drawPairsAfter_add, h, ok_bind]
  dsimp only
  rw [drawPairsAfter_eq, List.reverse_reverse]

/-- The first of some rounds is drawn, and then the others. -/
theorem drawRounds_succ_eq_ok {pairs n : Nat} {g : Generator σ} {rounds : List Round}
    (h : drawRounds numTasks pairs (n + 1) g = .ok rounds) :
    ∃ first g₁ rest, drawPairs numTasks pairs g = .ok (first, g₁) ∧
      drawRounds numTasks pairs n g₁ = .ok rest ∧
      rounds = ⟨first, g₁.clock.reading⟩ :: rest := by
  obtain ⟨⟨round, g₁⟩, one, h⟩ := bind_eq_ok_iff.mp h
  obtain ⟨rest, others, h⟩ := bind_eq_ok_iff.mp h
  cases h
  unfold drawRound at one
  by_cases large : 2 ^ 63 ≤ pairs * pairSize
  · rw [if_pos large] at one
    cases one
  · rw [if_neg large] at one
    obtain ⟨⟨first, g₂⟩, drawn, one⟩ := bind_eq_ok_iff.mp one
    cases one
    exact ⟨first, g₁, rest, drawn, others, rfl⟩

/-- The rounds of a run hold as many pairs as they have together, drawn at once. -/
theorem drawPairs_of_drawRounds {pairs n : Nat} {g : Generator σ} {rounds : List Round}
    (h : drawRounds numTasks pairs n g = .ok rounds) :
    ∃ g', drawPairs numTasks (pairs * n) g = .ok (rounds.flatMap Round.pairs, g') := by
  induction n generalizing g rounds with
  | zero =>
    cases h
    exact ⟨g, rfl⟩
  | succ n ih =>
    obtain ⟨first, g₁, rest, drawn, others, rfl⟩ := drawRounds_succ_eq_ok h
    obtain ⟨g', all⟩ := ih others
    rw [Nat.mul_succ, Nat.add_comm, drawPairs_add _ drawn, all]
    exact ⟨g', rfl⟩

/-- Of rounds that are cut in two ways, the shorter ones are the beginning of the longer ones. -/
theorem drawRounds_prefix {pairs pairs' n n' : Nat} {g : Generator σ} {rounds rounds' : List Round}
    (h : drawRounds numTasks pairs n g = .ok rounds)
    (h' : drawRounds numTasks pairs' n' g = .ok rounds') (hle : pairs * n ≤ pairs' * n') :
    rounds.flatMap Round.pairs <+: rounds'.flatMap Round.pairs := by
  obtain ⟨g₁, short⟩ := drawPairs_of_drawRounds h
  obtain ⟨g₂, long⟩ := drawPairs_of_drawRounds h'
  obtain ⟨k, hk⟩ := Nat.exists_eq_add_of_le hle
  rw [hk, drawPairs_add k short] at long
  cases more : drawPairs numTasks k g₁ with
  | error f =>
    rw [more] at long
    cases long
  | ok rest =>
    rw [more] at long
    obtain ⟨same, -⟩ := Prod.mk.inj (Except.ok.inj long)
    exact ⟨rest.1, same⟩

/-- Rounds that are cut in two ways and have as many pairs have the same ones. -/
theorem drawRounds_pairs_eq {pairs pairs' n n' : Nat} {g : Generator σ}
    {rounds rounds' : List Round} (h : drawRounds numTasks pairs n g = .ok rounds)
    (h' : drawRounds numTasks pairs' n' g = .ok rounds') (heq : pairs * n = pairs' * n') :
    rounds.flatMap Round.pairs = rounds'.flatMap Round.pairs := by
  obtain ⟨g₁, all⟩ := drawPairs_of_drawRounds h
  obtain ⟨g₂, all'⟩ := drawPairs_of_drawRounds h'
  rw [← heq, all] at all'
  exact (Prod.mk.inj (Except.ok.inj all')).1

end Generator

/-! ## Counting on -/

/-- Rounds count together what one round of all their pairs counts. -/
theorem total_checkRound (start : Replica) (rounds : List Round) :
    Outcome.total (rounds.map fun round => (checkRound start round.pairs).1) =
      (checkRound start (rounds.flatMap Round.pairs)).1 := by
  induction rounds with
  | nil => rfl
  | cons round rounds ih =>
    rw [List.map_cons, Outcome.total_cons, List.flatMap_cons, checkRound_append, ih,
      Outcome.add_comm]

namespace Config

variable {σ : Type} [WordSource σ]

/-- A run that may keep a worker busy counts what one round of all its pairs counts, in whatever
turns its workers are done. -/
theorem run_eq_one_round {c : Config} {source : σ} {rounds : List Round}
    (hworkers : 1 ≤ c.concurrency.toNat) (h : c.drawRounds source = .ok rounds) (turns : Turns) :
    c.run source turns =
      .ok (some (checkRound (.seeded c.numTasks.toNat) (rounds.flatMap Round.pairs)).1) := by
  rw [run_of_drawRounds hworkers h, total_checkRound]

/-- A run with a seed draws the words of its seed. -/
theorem source_of_seed {c : Config} {seed : UInt64} (h : c.seed = some seed) (entropy : Key) :
    c.source entropy = ChaCha.ofSeed seed := by
  rw [source, h]

/-- The pairs of two runs with the same random words and as many tasks: those of the shorter one are
the beginning of the others, and with as many pairs they are the same. -/
theorem pairs_of_drawRounds {c c' : Config} {source : σ} {rounds rounds' : List Round}
    (hsame : c'.numTasks = c.numTasks) (h : c.drawRounds source = .ok rounds)
    (h' : c'.drawRounds source = .ok rounds') :
    (c.pairsPerRound.toNat * c.rounds.toNat ≤ c'.pairsPerRound.toNat * c'.rounds.toNat →
        rounds.flatMap Round.pairs <+: rounds'.flatMap Round.pairs) ∧
      (c.pairsPerRound.toNat * c.rounds.toNat = c'.pairsPerRound.toNat * c'.rounds.toNat →
        rounds.flatMap Round.pairs = rounds'.flatMap Round.pairs) := by
  unfold drawRounds at h h'
  rw [hsame] at h'
  exact ⟨Generator.drawRounds_prefix h h', Generator.drawRounds_pairs_eq h h'⟩

/-- **Cutting into rounds changes nothing.** Take two runs with as many tasks, each with a clock
that cannot leave its range and with rounds that fit into memory, where there are any. With the same
random words the pairs of the one that has fewer are the beginning of the pairs of the other, and
runs with as many pairs have the same ones. Runs with as many pairs and the same seed then count the
same, however many workers each may keep busy, at least one, in whatever turns these are done, and
in every order of the outcomes. -/
theorem same_pairs_however_cut (c c' : Config) (hsame : c'.numTasks = c.numTasks)
    (htasks : 1 ≤ c.numTasks.toNat)
    (hclock : 1000000 + 2 * c.pairsPerRound.toNat * c.rounds.toNat < 2 ^ 63)
    (hclock' : 1000000 + 2 * c'.pairsPerRound.toNat * c'.rounds.toNat < 2 ^ 63)
    (hround : c.rounds.toNat = 0 ∨ c.pairsPerRound.toNat * pairSize < 2 ^ 63)
    (hround' : c'.rounds.toNat = 0 ∨ c'.pairsPerRound.toNat * pairSize < 2 ^ 63) :
    (∀ {σ : Type} [WordSource σ] (source : σ), ∃ rounds rounds',
      c.drawRounds source = .ok rounds ∧ c'.drawRounds source = .ok rounds' ∧
      (c.pairsPerRound.toNat * c.rounds.toNat ≤ c'.pairsPerRound.toNat * c'.rounds.toNat →
        rounds.flatMap Round.pairs <+: rounds'.flatMap Round.pairs) ∧
      (c.pairsPerRound.toNat * c.rounds.toNat = c'.pairsPerRound.toNat * c'.rounds.toNat →
        rounds.flatMap Round.pairs = rounds'.flatMap Round.pairs)) ∧
    ∀ (seed : UInt64) (entropy entropy' : Key), c.seed = some seed → c'.seed = some seed →
      c.pairsPerRound.toNat * c.rounds.toNat = c'.pairsPerRound.toNat * c'.rounds.toNat →
      1 ≤ c.concurrency.toNat → 1 ≤ c'.concurrency.toNat →
      ∃ counted, ∀ turns turns', ∃ os os',
        c.outcomes (c.source entropy) turns = .ok (some os) ∧
        c'.outcomes (c'.source entropy') turns' = .ok (some os') ∧
        c.run (c.source entropy) turns = .ok (some counted) ∧
        c'.run (c'.source entropy') turns' = .ok (some counted) ∧
        ∀ collected : List Outcome, collected.Perm os ∨ collected.Perm os' →
          Outcome.total collected = counted := by
  have htasks' : 1 ≤ c'.numTasks.toNat := by rwa [hsame]
  constructor
  · intro σ _ source
    obtain ⟨rounds, _, drawn, -⟩ := c.drawRounds_ok source htasks hclock hround
    obtain ⟨rounds', _, drawn', -⟩ := c'.drawRounds_ok source htasks' hclock' hround'
    exact ⟨rounds, rounds', drawn, drawn', pairs_of_drawRounds hsame drawn drawn'⟩
  · intro seed entropy entropy' hseed hseed' hpairs hworkers hworkers'
    rw [source_of_seed hseed, source_of_seed hseed']
    obtain ⟨rounds, _, drawn, -⟩ := c.drawRounds_ok (ChaCha.ofSeed seed) htasks hclock hround
    obtain ⟨rounds', _, drawn', -⟩ :=
      c'.drawRounds_ok (ChaCha.ofSeed seed) htasks' hclock' hround'
    have all : rounds.flatMap Round.pairs = rounds'.flatMap Round.pairs :=
      (pairs_of_drawRounds hsame drawn drawn').2 hpairs
    refine ⟨(checkRound (.seeded c.numTasks.toNat) (rounds.flatMap Round.pairs)).1, ?_⟩
    intro turns turns'
    obtain ⟨os, collects, order⟩ := outcomes_of_drawRounds hworkers drawn turns
    obtain ⟨os', collects', order'⟩ := outcomes_of_drawRounds hworkers' drawn' turns'
    have ran := run_eq_one_round hworkers drawn turns
    have ran' := run_eq_one_round hworkers' drawn' turns'
    rw [hsame, ← all] at ran'
    refine ⟨os, os', collects, collects', ran, ran', ?_⟩
    rintro collected (same | same)
    · rw [Outcome.total_perm (same.trans order), total_checkRound]
    · rw [Outcome.total_perm (same.trans order'), total_checkRound, hsame, all]

/-- A thousand pairs over four tasks in five rounds with two workers and in 125 with nine, from the
words of seed 7. -/
theorem same_pairs_however_cut_seven :
    let c := ofSettings [.numTasks 4, .pairsPerRound 200, .rounds 5, .concurrency 2, .seed 7]
    let c' := ofSettings [.numTasks 4, .pairsPerRound 8, .rounds 125, .concurrency 9, .seed 7]
    let entropy : Key := Vector.replicate 8 0
    c'.numTasks = c.numTasks ∧ 1 ≤ c.numTasks.toNat ∧
      1000000 + 2 * c.pairsPerRound.toNat * c.rounds.toNat < 2 ^ 63 ∧
      1000000 + 2 * c'.pairsPerRound.toNat * c'.rounds.toNat < 2 ^ 63 ∧
      c.pairsPerRound.toNat * pairSize < 2 ^ 63 ∧ c'.pairsPerRound.toNat * pairSize < 2 ^ 63 ∧
      c.concurrency.toNat = 2 ∧ c'.concurrency.toNat = 9 ∧
      (∃ rounds rounds', c.drawRounds (ChaCha.ofSeed 7) = .ok rounds ∧
        c'.drawRounds (ChaCha.ofSeed 7) = .ok rounds' ∧
        rounds.flatMap Round.pairs = rounds'.flatMap Round.pairs) ∧
      ∃ counted, ∀ turns turns', c.run (c.source entropy) turns = .ok (some counted) ∧
        c'.run (c'.source entropy) turns' = .ok (some counted) := by
  intro c c' entropy
  have hsame : c'.numTasks = c.numTasks := by decide
  have htasks : 1 ≤ c.numTasks.toNat := by decide
  have hclock : 1000000 + 2 * c.pairsPerRound.toNat * c.rounds.toNat < 2 ^ 63 := by decide
  have hclock' : 1000000 + 2 * c'.pairsPerRound.toNat * c'.rounds.toNat < 2 ^ 63 := by decide
  have hround : c.pairsPerRound.toNat * pairSize < 2 ^ 63 := by decide
  have hround' : c'.pairsPerRound.toNat * pairSize < 2 ^ 63 := by decide
  obtain ⟨drawn, counted⟩ := same_pairs_however_cut c c' hsame htasks hclock hclock' (.inr hround)
    (.inr hround')
  obtain ⟨rounds, rounds', first, second, -, same⟩ := drawn (ChaCha.ofSeed 7)
  obtain ⟨o, all⟩ :=
    counted 7 entropy entropy rfl rfl (by decide) (by decide) (by decide)
  refine ⟨hsame, htasks, hclock, hclock', hround, hround', by decide, by decide,
    ⟨rounds, rounds', first, second, same (by decide)⟩, o, fun turns turns' => ?_⟩
  obtain ⟨_, _, -, -, ran, ran', -⟩ := all turns turns'
  exact ⟨ran, ran'⟩

/-- Rounds have to fit into memory, and there has to be a worker. Cut into two rounds that do not
fit, the pairs of a run are neither drawn nor counted, and cut into rounds of two they are; and with
no worker the same rounds of two are not counted either. -/
theorem cuts_beyond_memory_differ :
    let c : Config :=
      { numTasks := 3, pairsPerRound := 2, rounds := 144115188075855872, seed := some 12 }
    let c' : Config :=
      { numTasks := 3, pairsPerRound := 144115188075855872, rounds := 2, seed := some 12 }
    1 ≤ c.numTasks.toNat ∧ 1000000 + 2 * c.pairsPerRound.toNat * c.rounds.toNat < 2 ^ 63 ∧
      c.pairsPerRound.toNat * c.rounds.toNat = c'.pairsPerRound.toNat * c'.rounds.toNat ∧
      (¬ ∃ rounds rounds', c.drawRounds (ChaCha.ofSeed 12) = .ok rounds ∧
        c'.drawRounds (ChaCha.ofSeed 12) = .ok rounds' ∧
        rounds.flatMap Round.pairs <+: rounds'.flatMap Round.pairs) ∧
      ∃ counted, ∀ turns, c.run (ChaCha.ofSeed 12) turns = .ok (some counted) ∧
        c'.run (ChaCha.ofSeed 12) turns = .error .capacityOverflow ∧
        { c with concurrency := 0 }.run (ChaCha.ofSeed 12) turns = .ok none := by
  intro c c'
  have hclock : 1000000 + 2 * c.pairsPerRound.toNat * c.rounds.toNat < 2 ^ 63 := by decide
  have stopped : c'.drawRounds (ChaCha.ofSeed 12) = .error .capacityOverflow :=
    Generator.drawRounds_too_large (by decide) (by decide) _ _
  obtain ⟨rounds, _, drawn, -⟩ :=
    c.drawRounds_ok (ChaCha.ofSeed 12) (by decide) hclock (.inr (by decide))
  refine ⟨by decide, hclock, by decide, ?_, _, fun turns =>
    ⟨run_eq_one_round (by decide) drawn turns, run_of_fault (by decide) stopped turns,
      run_no_worker rfl _ turns⟩⟩
  rintro ⟨_, rounds', -, drawn', -⟩
  rw [stopped] at drawn'
  cases drawn'

end Config

end TaskReplicas
