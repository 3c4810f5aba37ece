import Mathlib.Data.List.Forall2
import TaskReplicas.Proofs.CleanRuns

/-!
# The program always succeeds

Whatever the environment holds, there is at least one task, so with a clock and a memory that
suffice every run of the program is clean. `Config.PrintsClean` is what such a run prints: what is
run, and a table with the number of its tasks, all of its pairs and no divergence. A row of runs
prints one such table after the other and stops nowhere (`performFrom_runs`), and growing the number
of tasks eightfold gives a row of runs as long as the number stays a word (`scalingFrom_eq_runs`);
with one task at first, that is up to 21 steps. The program is such rows between its titles.
-/

set_option autoImplicit false

namespace TaskReplicas

open Sampling (WordSource ChaCha Key)

namespace Config

/-- The configuration with another number of tasks. -/
def withTasks (c : Config) (tasks : Nat) : Config := { c with numTasks := .ofNat tasks }

/-- What is printed of a run with a number of tasks in which all pairs were counted and none
diverged. -/
def PrintsClean (c : Config) (tasks : Nat) (lines : List String) : Prop :=
  ∃ passed kept suppressed time speed, lines = (c.withTasks tasks).banner ++
    ["", boxTop, "║              Stress Test Statistics                         ║", boxRule,
      countRow "Number of Tasks:" tasks,
      countRow "Transformed Pairs:" (c.pairsPerRound.toNat * c.rounds.toNat),
      countRow "Passed Through:" passed, countRow "Operations Kept:" kept,
      countRow "Operations Suppressed:" suppressed, countRow "Divergences:" 0, time, speed,
      boxBottom]

/-- A configuration with its own number of tasks is itself. -/
theorem withTasks_self (c : Config) : c.withTasks c.numTasks.toNat = c := by
  rw [withTasks, UInt64.ofNat_toNat]

/-- The number of tasks is the one that was asked for, as long as it is a word. -/
theorem toNat_withTasks (c : Config) {tasks : Nat} (h : tasks < 2 ^ 64) :
    (c.withTasks tasks).numTasks.toNat = tasks := UInt64.toNat_ofNat_of_lt' h

/-- The report of a run that counted all pairs and found no divergence is clean. -/
theorem printsClean_report (c : Config) {tasks : Nat} {counted : Outcome} (h : tasks < 2 ^ 64)
    (hpairs : counted.pairs = c.pairsPerRound.toNat * c.rounds.toNat)
    (hdiv : counted.divergences = 0) (elapsed : Duration) :
    c.PrintsClean tasks
      (Report.lines ⟨c.withTasks tasks, .ofRun (c.withTasks tasks) counted elapsed⟩) := by
  let known := Statistics.ofRun (c.withTasks tasks) counted elapsed
  have number : known.numTasks = tasks := c.toNat_withTasks h
  have pairs : known.outcome.pairs = c.pairsPerRound.toNat * c.rounds.toNat := hpairs
  have divergences : known.outcome.divergences = 0 := hdiv
  refine ⟨counted.passedThrough, counted.kept, counted.suppressed, known.timeRow, known.speedRow,
    ?_⟩
  show _ ++ known.lines = _
  rw [Statistics.lines, Statistics.countRows, number, pairs, divergences]
  rfl

end Config

/-! ## Rows of runs -/

section Perform

variable {σ : Type} [WordSource σ]

/-- Runs with given numbers of tasks, one after the other and before other acts. -/
theorem performFrom_runs (source : Nat → Config → σ) (elapsed : Nat → Duration)
    (turns : Nat → Turns) (c : Config) (hworkers : 1 ≤ c.concurrency.toNat)
    (hclock : 1000000 + 2 * c.pairsPerRound.toNat * c.rounds.toNat < 2 ^ 63)
    (hround : c.rounds.toNat = 0 ∨ c.pairsPerRound.toNat * pairSize < 2 ^ 63) (acts : List Act)
    (ns : List Nat) (hns : ∀ n ∈ ns, 1 ≤ n ∧ n < 2 ^ 64) (k : Nat) :
    let done := performFrom source elapsed turns k (ns.map (fun n => .run (c.withTasks n)) ++ acts)
    let rest := performFrom source elapsed turns (k + ns.length) acts
    ∃ printed, List.Forall₂ c.PrintsClean ns printed ∧ done.fault = rest.fault ∧
      done.lines = printed.flatten ++ rest.lines ∧ done.divergences = rest.divergences := by
  -- each run draws from the source of its own place, so the place is any
  induction ns generalizing k with
  | nil => exact ⟨[], .nil, rfl, rfl, rfl⟩
  | cons n ns ih =>
    obtain ⟨hn, hlt⟩ := hns n List.mem_cons_self
    have htasks : 1 ≤ (c.withTasks n).numTasks.toNat := by rwa [c.toNat_withTasks hlt]
    obtain ⟨_, drawn, -, hpairs, -, hdiv⟩ :=
      (c.withTasks n).total_clean (source k (c.withTasks n)) htasks hclock hround
    have ran := Config.run_of_drawRounds (c := c.withTasks n) hworkers drawn (turns k)
    generalize Outcome.total _ = counted at ran hpairs hdiv
    obtain ⟨printed, clean, fault, lines, divergences⟩ :=
      ih (fun m hm => hns m (List.mem_cons_of_mem _ hm)) (k + 1)
    have report := c.printsClean_report hlt hpairs hdiv (elapsed k)
    have later : k + (n :: ns).length = k + 1 + ns.length := by
      rw [List.length_cons]
      omega
    rw [List.map_cons, List.cons_append, performFrom, ran, later]
    refine ⟨_ :: printed, .cons report clean, fault, ?_, ?_⟩
    · rw [List.flatten_cons, List.append_assoc, ← lines]
    · rw [← divergences]
      show ((counted.divergences :: _) : List Nat).sum = _
      rw [hdiv, List.sum_cons, Nat.zero_add]
      rfl

/-- Growing a number of tasks eightfold is a row of runs, as long as the number after the last one
is a word too. -/
theorem scalingFrom_eq_runs (base : Config) (steps : Nat) (n : Nat) (h : n * 8 ^ steps < 2 ^ 64) :
    scalingFrom base (.ofNat n) steps =
      ((List.range steps).map (n * 8 ^ ·)).map fun m => .run (base.withTasks m) := by
  induction steps generalizing n with
  | zero => rfl
  | succ steps ih =>
    have next : n * 8 * 8 ^ steps < 2 ^ 64 := by rwa [Nat.mul_assoc, ← Nat.pow_succ']
    have word : n * 8 < 2 ^ 64 :=
      Nat.lt_of_le_of_lt (Nat.le_mul_of_pos_right _ (Nat.pow_pos (by decide))) next
    have number : (UInt64.ofNat n).toNat = n := UInt64.toNat_ofNat_of_lt' (show n < 2 ^ 64 by omega)
    have more : eightfold (.ofNat n) = .ok (.ofNat (n * 8)) := by
      rw [eightfold, number, if_pos word, UInt64.ofNat_mul]
      rfl
    have numbers : (List.range (steps + 1)).map (n * 8 ^ ·) =
        n :: (List.range steps).map (n * 8 * 8 ^ ·) := by
      rw [List.range_succ_eq_map, List.map_cons, List.map_map, Nat.pow_zero, Nat.mul_one]
      simp only [Function.comp_def, Nat.succ_eq_add_one, Nat.pow_succ', Nat.mul_assoc]
    rw [scalingFrom, more, numbers, List.map_cons, ← ih (n * 8) next]
    rfl

/-- Growing the number of tasks eightfold, up to 21 times, prints one clean run after the other. -/
theorem performFrom_scaling (source : Nat → Config → σ) (elapsed : Nat → Duration)
    (turns : Nat → Turns) (base : Config) (hworkers : 1 ≤ base.concurrency.toNat)
    (hclock : 1000000 + 2 * base.pairsPerRound.toNat * base.rounds.toNat < 2 ^ 63)
    (hround : base.rounds.toNat = 0 ∨ base.pairsPerRound.toNat * pairSize < 2 ^ 63) {steps : Nat}
    (hsteps : steps ≤ 21) (k : Nat) :
    let done := performFrom source elapsed turns k (scaling base steps)
    ∃ printed, List.Forall₂ base.PrintsClean ((List.range steps).map (8 ^ ·)) printed ∧
      done.fault = none ∧ done.lines = printed.flatten ∧ done.divergences = 0 := by
  have small : ∀ j ≤ 21, 8 ^ j < 2 ^ 64 := by
    intro j hj
    have bound : 8 ^ j ≤ 8 ^ 21 := Nat.pow_le_pow_right (by decide) hj
    omega
  have rows : scaling base steps =
      ((List.range steps).map (8 ^ ·)).map fun m => .run (base.withTasks m) := by
    have word : 1 * 8 ^ steps < 2 ^ 64 := by rw [Nat.one_mul]; exact small steps hsteps
    have grown := scalingFrom_eq_runs base steps 1 word
    simp only [Nat.one_mul] at grown
    exact grown
  have numbers : ∀ n ∈ (List.range steps).map (8 ^ ·), 1 ≤ n ∧ n < 2 ^ 64 := by
    intro n hn
    obtain ⟨j, hj, rfl⟩ := List.mem_map.mp hn
    have below := List.mem_range.mp hj
    exact ⟨Nat.pow_pos (by decide), small j (by omega)⟩
  obtain ⟨printed, clean, fault, lines, divergences⟩ :=
    performFrom_runs source elapsed turns base hworkers hclock hround [] _ numbers k
  rw [List.append_nil, ← rows] at fault lines divergences
  exact ⟨printed, clean, fault, lines.trans (List.append_nil _), divergences⟩

/-- A run that may keep a worker busy ends, with its counts or with a fault. -/
theorem Config.run_ends {c : Config} (hworkers : 1 ≤ c.concurrency.toNat) (source : σ)
    (turns : Turns) :
    (∃ counted, c.run source turns = .ok (some counted)) ∨
      ∃ f, c.run source turns = .error f := by
  cases drawn : c.drawRounds source with
  | ok rounds => exact .inl ⟨_, run_of_drawRounds hworkers drawn turns⟩
  | error f => exact .inr ⟨f, run_of_fault hworkers drawn turns⟩

/-- Acts end when each of their runs may keep a worker busy. -/
theorem performFrom_ends (source : Nat → Config → σ) (elapsed : Nat → Duration)
    (turns : Nat → Turns) {acts : List Act} (h : ∀ c, .run c ∈ acts → 1 ≤ c.concurrency.toNat)
    (k : Nat) : (performFrom source elapsed turns k acts).stalled = false := by
  induction acts generalizing k with
  | nil => rfl
  | cons act acts ih =>
    have later := ih fun c hc => h c (List.mem_cons_of_mem _ hc)
    cases act with
    | heading title => exact later k
    | stop f => rfl
    | run c =>
      rw [performFrom]
      rcases c.run_ends (h c List.mem_cons_self) (source k c) (turns k) with ⟨_, ran⟩ | ⟨_, ran⟩
      · rw [ran]
        exact later (k + 1)
      · rw [ran]

/-- Growing the number of tasks leaves the number of workers. -/
theorem concurrency_of_mem_scalingFrom {base c : Config} {steps : Nat} {tasks : UInt64}
    (h : .run c ∈ scalingFrom base tasks steps) : c.concurrency = base.concurrency := by
  induction steps generalizing tasks with
  | zero => cases h
  | succ steps ih =>
    rw [scalingFrom] at h
    rcases List.mem_cons.mp h with same | later
    · cases same
      rfl
    · cases more : eightfold tasks with
      | ok next =>
        rw [more] at later
        exact ih later
      | error f =>
        rw [more] at later
        simp at later

end Perform

/-! ## The program -/

/-- The configuration that the environment makes: each variable sets its field, the number of tasks
is raised to one, and no variable sets how many workers may be busy. -/
theorem Environment.config_eq (e : Environment) :
    e.config =
      { numTasks := max ((e.tasks.bind unsigned?).getD 16) 1
        pairsPerRound := (e.pairs.bind unsigned?).getD 1000
        rounds := (e.rounds.bind unsigned?).getD 50
        concurrency := 8
        seed := e.seed.bind unsigned? } := by
  rw [Environment.config, Environment.settings]
  simp only [Environment.setting?]
  cases e.tasks.bind unsigned? <;> cases e.pairs.bind unsigned? <;>
    cases e.rounds.bind unsigned? <;> cases e.seed.bind unsigned? <;> rfl

/-- The number of tasks is the one that the environment gives or 16, raised to one. -/
theorem Environment.numTasks_config (e : Environment) :
    e.config.numTasks = max ((e.tasks.bind unsigned?).getD 16) 1 :=
  congrArg Config.numTasks e.config_eq

/-- Every run of the program may keep eight workers busy. -/
theorem Environment.concurrency_config (e : Environment) : e.config.concurrency = 8 :=
  congrArg Config.concurrency e.config_eq

/-- The larger of a number and one is at least one. -/
theorem one_le_toNat_max_one (n : UInt64) : 1 ≤ (max n 1).toNat := by
  have larger : max n 1 = if n ≤ 1 then 1 else n := rfl
  rw [larger]
  split
  · exact Nat.le_refl 1
  · next h =>
    rw [UInt64.le_iff_toNat_le] at h
    exact Nat.le_of_not_le h

/-- The acts of the program are one row of clean runs behind each of its titles. -/
theorem perform_programActs {σ : Type} [WordSource σ] (source : Nat → Config → σ)
    (elapsed : Nat → Duration) (turns : Nat → Turns) (c : Config)
    (htasks : 1 ≤ c.numTasks.toNat) (hworkers : 1 ≤ c.concurrency.toNat)
    (hclock : 1000000 + 2 * c.pairsPerRound.toNat * c.rounds.toNat < 2 ^ 63)
    (hround : c.rounds.toNat = 0 ∨ c.pairsPerRound.toNat * pairSize < 2 ^ 63) :
    let done := perform source elapsed (programActs c) turns
    ∃ first scaled, c.PrintsClean c.numTasks.toNat first ∧
      List.Forall₂ c.PrintsClean [1, 8, 64, 512] scaled ∧ done.fault = none ∧
      done.lines = headingLines "            TRANSFORM STRESS TESTS" ++ first ++
        headingLines "          SCALING ANALYSIS (tasks)" ++ scaled.flatten ∧
      done.divergences = 0 := by
  obtain ⟨scaled, cleanScaled, fault, lines, divergences⟩ :=
    performFrom_scaling source elapsed turns c hworkers hclock hround (show 4 ≤ 21 by decide) 1
  have number : ∀ n ∈ [c.numTasks.toNat], 1 ≤ n ∧ n < 2 ^ 64 := by
    intro n hn
    rw [List.mem_singleton.mp hn]
    exact ⟨htasks, c.numTasks.toNat_lt⟩
  obtain ⟨printed, clean, fault', lines', divergences'⟩ :=
    performFrom_runs source elapsed turns c hworkers hclock hround
      (.heading "          SCALING ANALYSIS (tasks)" :: scaling c 4) [c.numTasks.toNat] number 0
  rw [List.map_singleton, c.withTasks_self] at fault' lines' divergences'
  cases clean with
  | @cons _ first _ _ cleanFirst none =>
    cases none
    refine ⟨first, scaled, cleanFirst, cleanScaled, fault'.trans fault, ?_,
      divergences'.trans divergences⟩
    show headingLines _ ++ (performFrom source elapsed turns 0
      ([.run c] ++ .heading "          SCALING ANALYSIS (tasks)" :: scaling c 4)).lines = _
    rw [lines']
    show headingLines _ ++
      ([first].flatten ++ (headingLines _ ++ (performFrom _ _ _ 1 _).lines)) = _
    rw [lines, List.flatten_singleton, List.append_assoc, List.append_assoc]

/-- The program always ends, also where it ends with a fault. -/
theorem perform_programActs_ends {σ : Type} [WordSource σ] (source : Nat → Config → σ)
    (elapsed : Nat → Duration) (turns : Nat → Turns) (e : Environment) :
    (perform source elapsed (programActs e.config) turns).stalled = false := by
  refine performFrom_ends source elapsed turns (fun c hc => ?_) 0
  have workers : c.concurrency = e.config.concurrency := by
    simp only [programActs, List.cons_append, List.nil_append, List.mem_cons, reduceCtorEq,
      false_or, Act.run.injEq] at hc
    rcases hc with rfl | hc
    · rfl
    · exact concurrency_of_mem_scalingFrom hc
  rw [workers, e.concurrency_config]
  decide

/-- **The program never fails.** Whatever the environment holds, with a clock that cannot leave its
range and rounds that fit into memory, where there are any, the program exits with 0 and prints,
between its titles and before its last line, five runs in which all pairs were counted and none
diverged: one with the number of tasks that is set up, at least one, and one each with 1, 8, 64 and
512 tasks. It does so in whatever turns its workers are done, and never waits for ever. The same
holds of growing the number of tasks up to 21 times, from any configuration that may keep a worker
busy and with any random words: the number stays a word, each step ends, and each prints its run. -/
theorem program_succeeds :
    (∀ (e : Environment) (entropy : Nat → Key) (elapsed : Nat → Duration) (turns : Nat → Turns),
      let c := e.config
      1000000 + 2 * c.pairsPerRound.toNat * c.rounds.toNat < 2 ^ 63 →
      (c.rounds.toNat = 0 ∨ c.pairsPerRound.toNat * pairSize < 2 ^ 63) →
      c.numTasks = max ((e.tasks.bind unsigned?).getD 16) 1 ∧
      (perform (fun k c => c.source (entropy k)) elapsed (programActs c) turns).stalled = false ∧
      ∃ first scaled, c.PrintsClean c.numTasks.toNat first ∧
        List.Forall₂ c.PrintsClean [1, 8, 64, 512] scaled ∧
        program e entropy elapsed turns = (0,
          headingLines "            TRANSFORM STRESS TESTS" ++ first ++
            headingLines "          SCALING ANALYSIS (tasks)" ++ scaled.flatten ++
            ["", "✓ All stress tests completed successfully!"])) ∧
    (∀ {σ : Type} [WordSource σ] (source : Nat → Config → σ) (elapsed : Nat → Duration)
      (turns : Nat → Turns) (base : Config) (steps : Nat), 1 ≤ base.concurrency.toNat →
      1000000 + 2 * base.pairsPerRound.toNat * base.rounds.toNat < 2 ^ 63 →
      (base.rounds.toNat = 0 ∨ base.pairsPerRound.toNat * pairSize < 2 ^ 63) → steps ≤ 21 →
      let done := perform source elapsed (scaling base steps) turns
      ∃ printed, List.Forall₂ base.PrintsClean ((List.range steps).map (8 ^ ·)) printed ∧
        done.fault = none ∧ done.stalled = false ∧ done.lines = printed.flatten ∧
        done.divergences = 0) := by
  refine ⟨?_, ?_⟩
  · intro e entropy elapsed turns c hclock hround
    have htasks : 1 ≤ c.numTasks.toNat := by
      rw [e.numTasks_config]
      exact one_le_toNat_max_one _
    have hworkers : 1 ≤ c.concurrency.toNat := by
      rw [e.concurrency_config]
      decide
    obtain ⟨first, scaled, cleanFirst, cleanScaled, fault, lines, divergences⟩ :=
      perform_programActs (fun k c => c.source (entropy k)) elapsed turns c htasks hworkers hclock
        hround
    refine ⟨e.numTasks_config, perform_programActs_ends _ elapsed turns e, first, scaled,
      cleanFirst, cleanScaled, ?_⟩
    rw [program, fault, divergences, lines]
    rfl
  · intro σ _ source elapsed turns base steps hworkers hclock hround hsteps
    obtain ⟨printed, clean, fault, lines, divergences⟩ :=
      performFrom_scaling source elapsed turns base hworkers hclock hround hsteps 0
    have workers : ∀ c, .run c ∈ scaling base steps → 1 ≤ c.concurrency.toNat := by
      intro c hc
      rwa [concurrency_of_mem_scalingFrom hc]
    exact ⟨printed, clean, fault, performFrom_ends source elapsed turns workers 0, lines,
      divergences⟩

/-- No task asked for, seven pairs with a plus in front of their number, and a number of rounds that
is no text; then more pairs in a round than fit into memory and no rounds; then 21 steps with words
of one seed. -/
theorem program_succeeds_seven :
    let entropy : Nat → Key := fun _ => Vector.replicate 8 0
    let elapsed : Nat → Duration := fun _ => .zero
    let turns : Nat → Turns := fun k n => 3 * k + n
    let e : Environment :=
      { tasks := some [48], pairs := some [43, 48, 55], rounds := some [255], seed := some [55] }
    let c := e.config
    let idle : Environment :=
      { pairs := some [53, 55, 54, 52, 54, 48, 55, 53, 50, 51, 48, 51, 52, 50, 51, 52, 57]
        rounds := some [48] }
    (c = { numTasks := 1, pairsPerRound := 7, rounds := 50, seed := some 7 } ∧
      1000000 + 2 * c.pairsPerRound.toNat * c.rounds.toNat < 2 ^ 63 ∧
      c.pairsPerRound.toNat * pairSize < 2 ^ 63 ∧
      ∃ first scaled, c.PrintsClean 1 first ∧
        List.Forall₂ c.PrintsClean [1, 8, 64, 512] scaled ∧
        program e entropy elapsed turns = (0,
          headingLines "            TRANSFORM STRESS TESTS" ++ first ++
            headingLines "          SCALING ANALYSIS (tasks)" ++ scaled.flatten ++
            ["", "✓ All stress tests completed successfully!"])) ∧
    (idle.config = { pairsPerRound := 57646075230342349, rounds := 0 } ∧
      (program idle entropy elapsed turns).1 = 0) ∧
    (perform (fun _ _ => ChaCha.ofSeed 7) elapsed (scaling c 21) turns).fault = none := by
  intro entropy elapsed turns e c idle
  have hc : c = { numTasks := 1, pairsPerRound := 7, rounds := 50, seed := some 7 } := by decide
  have hclock : 1000000 + 2 * c.pairsPerRound.toNat * c.rounds.toNat < 2 ^ 63 := by decide
  have hround : c.pairsPerRound.toNat * pairSize < 2 ^ 63 := by decide
  obtain ⟨-, -, printed⟩ := program_succeeds.1 e entropy elapsed turns hclock (.inr hround)
  have hidle : idle.config = { pairsPerRound := 57646075230342349, rounds := 0 } := by decide
  obtain ⟨-, -, _, _, -, -, exits⟩ :=
    program_succeeds.1 idle entropy elapsed turns (by rw [hidle]; decide)
      (.inl (by rw [hidle]; rfl))
  obtain ⟨_, -, fault, -⟩ := program_succeeds.2 (fun _ _ => ChaCha.ofSeed 7) elapsed turns c 21
    (by decide) hclock (.inr hround) (by decide)
  exact ⟨⟨hc, hclock, hround, printed⟩, ⟨hidle, by rw [exits]⟩, fault⟩

end TaskReplicas
