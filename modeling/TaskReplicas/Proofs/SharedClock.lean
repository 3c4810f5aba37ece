import Mathlib.Algebra.BigOperators.Fin
import Mathlib.Algebra.Order.BigOperators.Group.Finset
import TaskReplicas.Proofs.ClockCalls

/-!
# Threads that share a clock

An advance is two steps of its thread. In the first the clock moves, indivisibly, and the thread
learns where it stood; in the second the thread makes the sum that it returns, and does not look at
the clock again. Other threads may take any number of steps in between, so a run is an order of
steps of the threads, whatever it is.

`SharedClock.Fits` says that no order of the advances still to come can lead out of the range of
timestamps. Then a step keeps the accounts straight (`SharedClock.accounts_step`): the clock moves
by what was due, and the thread will return what the clock then shows. Runs follow by induction, and
amounts of one sign always fit when their total does.
-/

set_option autoImplicit false

namespace TaskReplicas

/-- A thread that advances a clock. -/
structure Advancer where
  /-- The amounts by which it will advance the clock. -/
  due : List Timestamp
  /-- Between the two steps of an advance: where the clock stood, and the amount. -/
  moving : Option (Timestamp × Timestamp) := none
  /-- What its advances returned so far. -/
  returned : List (Except Fault Timestamp) := []
deriving DecidableEq

/-- A move of a shared clock. -/
structure ClockMove (n : Nat) where
  /-- The thread that moved it. -/
  thread : Fin n
  /-- By how much. -/
  seconds : Timestamp
  /-- What the clock showed right after. -/
  shown : Timestamp
deriving DecidableEq

/-- A clock and the threads that share it. -/
structure SharedClock (n : Nat) where
  clock : ManualClock
  threads : Fin n → Advancer

/-- What the advances of a thread returned, and what the one that it is in will return. -/
def Advancer.results (t : Advancer) : List (Except Fault Timestamp) :=
  t.returned ++ (t.moving.map fun (found, seconds) => Timestamp.checkedAdd found seconds).toList

namespace SharedClock

variable {n : Nat}

/-- Threads before their first step. -/
def start (instant : Timestamp) (amounts : Fin n → List Timestamp) : SharedClock n :=
  ⟨⟨instant⟩, fun i => { due := amounts i }⟩

/-- The next step of a thread, and the move of the clock in it, if there is one. A thread ends with
an advance that faults. -/
def step (s : SharedClock n) (i : Fin n) : Option (ClockMove n) × SharedClock n :=
  match s.threads i with
  | ⟨due, some (found, seconds), returned⟩ =>
    let sum := Timestamp.checkedAdd found seconds
    let left := if sum.isOk then due else []
    (none, { s with threads := Function.update s.threads i ⟨left, none, returned ++ [sum]⟩ })
  | ⟨seconds :: due, none, returned⟩ =>
    let moved := (s.clock.advance seconds).2
    (some ⟨i, seconds, moved.reading⟩,
      ⟨moved, Function.update s.threads i ⟨due, some (s.clock.reading, seconds), returned⟩⟩)
  | ⟨[], none, _⟩ => (none, s)

/-- Steps of threads in some order, and the moves of the clock in them. -/
def run (s : SharedClock n) : List (Fin n) → List (ClockMove n) × SharedClock n
  | [] => ([], s)
  | i :: order =>
    let (move, next) := s.step i
    let (moves, last) := next.run order
    (move.toList ++ moves, last)

/-- Whether all threads are through with all of their advances. -/
def Finished (s : SharedClock n) : Prop :=
  ∀ i, (s.threads i).due = [] ∧ (s.threads i).moving = none

instance (s : SharedClock n) : Decidable s.Finished := inferInstanceAs (Decidable (∀ _, _))

/-- The sum over all amounts still due, each measured in some way. -/
def ahead (measure : Int → Int) (s : SharedClock n) : Int :=
  ∑ i, ((s.threads i).due.map fun d => measure d.toInt).sum

/-- Whether every order of the advances still to come stays in the range of timestamps: the clock
stays below its end if all that leads forwards comes first, and above its beginning if all that
leads backwards does. -/
structure Fits (s : SharedClock n) : Prop where
  above : -2 ^ 63 ≤ s.clock.reading.toInt + s.ahead (min · 0)
  below : s.clock.reading.toInt + s.ahead (max · 0) < 2 ^ 63
  moving : ∀ i found seconds, (s.threads i).moving = some (found, seconds) →
    Timestamp.InRange (found.toInt + seconds.toInt)

/-- What some moves have to do with the states before and after them. -/
structure Accounts (s : SharedClock n) (moves : List (ClockMove n)) (s' : SharedClock n) :
    Prop where
  fits : s'.Fits
  total : s'.clock.reading.toInt + s'.ahead id = s.clock.reading.toInt + s.ahead id
  reading : s'.clock.reading.toInt =
    s.clock.reading.toInt + (moves.map (·.seconds.toInt)).sum
  shown : moves.map (·.shown.toInt) =
    ((moves.map (·.seconds.toInt)).scanl (· + ·) s.clock.reading.toInt).tail
  due : ∀ i, (moves.filter (·.thread = i)).map (·.seconds) ++ (s'.threads i).due =
    (s.threads i).due
  results : ∀ i, (s'.threads i).results =
    (s.threads i).results ++ (moves.filter (·.thread = i)).map fun m => .ok m.shown

/-- When no other thread comes in between, the two steps of a thread are an advance of the clock. -/
theorem run_twice {s : SharedClock n} {i : Fin n} {seconds : Timestamp} {due : List Timestamp}
    {returned : List (Except Fault Timestamp)}
    (h : s.threads i = ⟨seconds :: due, none, returned⟩) :
    (s.run [i, i]).2.clock = (s.clock.advance seconds).2 ∧
      ((s.run [i, i]).2.threads i).returned = returned ++ [(s.clock.advance seconds).1] := by
  simp [run, step, h, ManualClock.advance]

/-! ## What is ahead -/

/-- A sum over all threads when one of them changes. -/
theorem sum_update {M : Type} [AddCommMonoid M] (weight : Advancer → M) (threads : Fin n → Advancer)
    (i : Fin n) (t : Advancer) :
    ∑ j, weight (Function.update threads i t j) + weight (threads i) =
      ∑ j, weight (threads j) + weight t := by
  have changed := Finset.add_sum_erase Finset.univ
    (fun j => weight (Function.update threads i t j)) (Finset.mem_univ i)
  have before := Finset.add_sum_erase Finset.univ (fun j => weight (threads j)) (Finset.mem_univ i)
  have others : ∑ j ∈ Finset.univ.erase i, weight (Function.update threads i t j) =
      ∑ j ∈ Finset.univ.erase i, weight (threads j) := by
    refine Finset.sum_congr rfl fun j hj => ?_
    rw [Function.update_of_ne (Finset.ne_of_mem_erase hj)]
  simp only [Function.update_self] at changed
  rw [← changed, ← before, others]
  ac_rfl

/-- What is ahead moves forward by no less than nothing. -/
theorem ahead_nonneg (s : SharedClock n) : 0 ≤ s.ahead (max · 0) := by
  refine Finset.sum_nonneg fun i _ => List.sum_nonneg ?_
  simp

/-- What is ahead moves back by no less than nothing. -/
theorem ahead_nonpos (s : SharedClock n) : s.ahead (min · 0) ≤ 0 := by
  have behind : ∀ due : List Timestamp, (due.map fun d => min d.toInt 0).sum ≤ 0 := by
    intro due
    induction due with
    | nil => simp
    | cons d due ih => simp only [List.map_cons, List.sum_cons]; omega
  exact Finset.sum_nonpos fun i _ => behind _

/-- An amount that is taken up is no longer ahead. -/
theorem ahead_moved (measure : Int → Int) {s : SharedClock n} (clock : ManualClock) {i : Fin n}
    {seconds : Timestamp} {due : List Timestamp} (h : (s.threads i).due = seconds :: due)
    (moving : Option (Timestamp × Timestamp)) (returned : List (Except Fault Timestamp)) :
    ahead measure ⟨clock, Function.update s.threads i ⟨due, moving, returned⟩⟩ +
      measure seconds.toInt = s.ahead measure := by
  have changed := sum_update (fun t => (t.due.map fun d : Timestamp => measure d.toInt).sum)
    s.threads i ⟨due, moving, returned⟩
  simp only [h, List.map_cons, List.sum_cons] at changed
  simp only [ahead]
  omega

/-- As long as nothing more is taken up, what is ahead stays the same. -/
theorem ahead_returned (measure : Int → Int) (s : SharedClock n) (i : Fin n)
    (moving : Option (Timestamp × Timestamp)) (returned : List (Except Fault Timestamp)) :
    ahead measure { s with
      threads := Function.update s.threads i ⟨(s.threads i).due, moving, returned⟩ } =
      s.ahead measure := by
  have changed := sum_update (fun t => (t.due.map fun d : Timestamp => measure d.toInt).sum)
    s.threads i ⟨(s.threads i).due, moving, returned⟩
  unfold ahead
  exact add_right_cancel changed

/-! ## One step -/

/-- What fits is in range when it comes next. -/
theorem Fits.inRange {s : SharedClock n} (fits : s.Fits) {i : Fin n} {seconds : Timestamp}
    {due : List Timestamp} (h : (s.threads i).due = seconds :: due) :
    Timestamp.InRange (s.clock.reading.toInt + seconds.toInt) := by
  have above := fits.above
  have below := fits.below
  have gains := ahead_moved (max · 0) s.clock h none []
  have losses := ahead_moved (min · 0) s.clock h none []
  have later := ahead_nonneg ⟨s.clock, Function.update s.threads i ⟨due, none, []⟩⟩
  have later' := ahead_nonpos ⟨s.clock, Function.update s.threads i ⟨due, none, []⟩⟩
  unfold Timestamp.InRange
  omega

/-- What still fits when one thread changes. -/
theorem Fits.update {s : SharedClock n} (fits : s.Fits) {clock : ManualClock} {i : Fin n}
    {t : Advancer}
    (above : -2 ^ 63 ≤ clock.reading.toInt +
      ahead (min · 0) ⟨clock, Function.update s.threads i t⟩)
    (below : clock.reading.toInt + ahead (max · 0) ⟨clock, Function.update s.threads i t⟩ < 2 ^ 63)
    (moving : ∀ found seconds, t.moving = some (found, seconds) →
      Timestamp.InRange (found.toInt + seconds.toInt)) :
    Fits ⟨clock, Function.update s.threads i t⟩ := by
  refine ⟨above, below, fun j found seconds h => ?_⟩
  by_cases hj : j = i
  · subst hj
    simp only [Function.update_self] at h
    exact moving found seconds h
  · simp only [Function.update_of_ne hj] at h
    exact fits.moving j found seconds h

/-- The accounts of a step are those of the thread that takes it. -/
theorem Accounts.of_thread {s : SharedClock n} {clock : ManualClock} {i : Fin n} {t : Advancer}
    {moves : List (ClockMove n)} (own : ∀ m ∈ moves, m.thread = i)
    (fits : Fits ⟨clock, Function.update s.threads i t⟩)
    (total : clock.reading.toInt + ahead id ⟨clock, Function.update s.threads i t⟩ =
      s.clock.reading.toInt + s.ahead id)
    (reading : clock.reading.toInt = s.clock.reading.toInt + (moves.map (·.seconds.toInt)).sum)
    (shown : moves.map (·.shown.toInt) =
      ((moves.map (·.seconds.toInt)).scanl (· + ·) s.clock.reading.toInt).tail)
    (due : moves.map (·.seconds) ++ t.due = (s.threads i).due)
    (results : t.results = (s.threads i).results ++ moves.map fun m => .ok m.shown) :
    s.Accounts moves ⟨clock, Function.update s.threads i t⟩ := by
  have mine : moves.filter (·.thread = i) = moves :=
    List.filter_eq_self.mpr fun m hm => decide_eq_true (own m hm)
  have others {j : Fin n} (hj : j ≠ i) : moves.filter (·.thread = j) = [] := by
    refine List.filter_eq_nil_iff.mpr fun m hm => ?_
    rw [own m hm, decide_eq_true_iff]
    exact hj.symm
  refine ⟨fits, total, reading, shown, fun j => ?_, fun j => ?_⟩
  · by_cases hj : j = i
    · subst hj
      simpa [mine] using due
    · simp [others hj, Function.update_of_ne hj]
  · by_cases hj : j = i
    · subst hj
      simpa [mine] using results
    · simp [others hj, Function.update_of_ne hj]

/-- The first step of an advance that fits. -/
theorem accounts_move {s : SharedClock n} (fits : s.Fits) {i : Fin n} {seconds : Timestamp}
    {due : List Timestamp} {returned : List (Except Fault Timestamp)}
    (h : s.threads i = ⟨seconds :: due, none, returned⟩) :
    s.Accounts [⟨i, seconds, s.clock.reading + seconds⟩]
      ⟨⟨s.clock.reading + seconds⟩,
        Function.update s.threads i ⟨due, some (s.clock.reading, seconds), returned⟩⟩ := by
  have next : (s.threads i).due = seconds :: due := by rw [h]
  have range := fits.inRange next
  have exact := toInt_add_of_inRange range
  have left (measure : Int → Int) := ahead_moved measure ⟨s.clock.reading + seconds⟩ next
    (some (s.clock.reading, seconds)) returned
  refine .of_thread (by simp) (fits.update ?_ ?_ ?_) ?_ ?_ ?_ ?_ ?_
  · have := fits.above
    have := left (min · 0)
    simp only [exact]
    omega
  · have := fits.below
    have := left (max · 0)
    simp only [exact]
    omega
  · rintro found amount ⟨⟩
    exact range
  · have := left id
    simp only [exact, id] at this ⊢
    omega
  · simpa using exact
  · simpa using exact
  · simp [h]
  · simp [h, Advancer.results, checkedAdd_eq_ite, range]

/-- The second step of an advance that fits. -/
theorem accounts_return {s : SharedClock n} (fits : s.Fits) {i : Fin n} {found seconds : Timestamp}
    {due : List Timestamp} {returned : List (Except Fault Timestamp)}
    (h : s.threads i = ⟨due, some (found, seconds), returned⟩) :
    s.Accounts [] { s with
      threads := Function.update s.threads i
        ⟨due, none, returned ++ [Timestamp.checkedAdd found seconds]⟩ } := by
  obtain rfl : due = (s.threads i).due := by rw [h]
  have same (measure : Int → Int) := ahead_returned measure s i none
    (returned ++ [Timestamp.checkedAdd found seconds])
  refine .of_thread (by simp) (fits.update ?_ ?_ (by simp)) ?_ (by simp) (by simp) (by simp) ?_
  · rw [same]
    exact fits.above
  · rw [same]
    exact fits.below
  · rw [same]
  · rw [h]
    simp [Advancer.results]

/-- No moves change nothing. -/
theorem Accounts.refl {s : SharedClock n} (fits : s.Fits) : s.Accounts [] s :=
  ⟨fits, rfl, by simp, by simp, by simp, by simp⟩

/-- The accounts of moves go on with those of the moves behind them. -/
theorem Accounts.trans {s s' s'' : SharedClock n} {moves moves' : List (ClockMove n)}
    (first : s.Accounts moves s') (second : s'.Accounts moves' s'') :
    s.Accounts (moves ++ moves') s'' := by
  constructor
  · exact second.fits
  · rw [second.total, first.total]
  · rw [second.reading, first.reading, List.map_append, List.sum_append, Int.add_assoc]
  · have there : (moves.map (·.seconds.toInt)).foldl (· + ·) s.clock.reading.toInt =
        s'.clock.reading.toInt := by
      rw [first.reading]
      exact List.foldl_eq_apply_foldr
    rw [List.map_append, List.map_append, first.shown, second.shown, List.scanl_append, there,
      List.tail_append_of_ne_nil (by simp)]
  · intro i
    rw [← first.due i, ← second.due i]
    simp
  · intro i
    rw [second.results i, first.results i]
    simp

/-- A step of what fits keeps the accounts straight. -/
theorem accounts_step {s : SharedClock n} (fits : s.Fits) (i : Fin n) :
    s.Accounts (s.step i).1.toList (s.step i).2 := by
  unfold step
  split
  · next due found seconds returned h =>
    have range : Timestamp.InRange (found.toInt + seconds.toInt) :=
      fits.moving i found seconds (by rw [h])
    have kept : (Timestamp.checkedAdd found seconds).isOk = true := by
      rw [checkedAdd_eq_ite, if_pos range]
      rfl
    simp only [kept, if_true]
    exact accounts_return fits h
  · next seconds due returned h => exact accounts_move fits h
  · exact .refl fits

/-- So does any number of steps. -/
theorem accounts_run {s : SharedClock n} (fits : s.Fits) (order : List (Fin n)) :
    s.Accounts (s.run order).1 (s.run order).2 := by
  induction order generalizing s with
  | nil => exact .refl fits
  | cons i order ih =>
    have first := accounts_step fits i
    exact first.trans (ih first.fits)

/-! ## Whole runs -/

/-- An amount that is not negative is a number that is not. -/
theorem zero_le_toInt {d : Timestamp} (h : 0 ≤ d) : 0 ≤ d.toInt :=
  Int64.toInt_zero ▸ Int64.le_iff_toInt_le.mp h

/-- An amount that is not positive is a number that is not. -/
theorem toInt_le_zero {d : Timestamp} (h : d ≤ 0) : d.toInt ≤ 0 :=
  Int64.toInt_zero ▸ Int64.le_iff_toInt_le.mp h

/-- Amounts of one sign fit when their total does. -/
theorem fits_start {instant : Timestamp} {amounts : Fin n → List Timestamp}
    (signs : (∀ i, ∀ d ∈ amounts i, 0 ≤ d) ∨ ∀ i, ∀ d ∈ amounts i, d ≤ 0)
    (range : Timestamp.InRange (instant.toInt + (start instant amounts).ahead id)) :
    (start instant amounts).Fits := by
  have same {measure measure' : Int → Int}
      (h : ∀ i, ∀ d ∈ amounts i, measure d.toInt = measure' d.toInt) :
      (start instant amounts).ahead measure = (start instant amounts).ahead measure' := by
    refine Finset.sum_congr rfl fun i _ => congrArg List.sum ?_
    exact List.map_congr_left (h i)
  have nothing : (start instant amounts).ahead (fun _ => 0) = 0 := by simp [ahead]
  have low := instant.le_toInt
  have high := instant.toInt_lt
  unfold Timestamp.InRange at range
  obtain up | down := signs
  · have gains : (start instant amounts).ahead (max · 0) = (start instant amounts).ahead id := by
      refine same fun i d hd => max_eq_left ?_
      exact zero_le_toInt (up i d hd)
    have losses : (start instant amounts).ahead (min · 0) = 0 := by
      refine .trans (same fun i d hd => min_eq_right ?_) nothing
      exact zero_le_toInt (up i d hd)
    refine ⟨?_, ?_, nofun⟩
    · rw [losses, Int.add_zero]
      exact low
    · rw [gains]
      exact range.2
  · have gains : (start instant amounts).ahead (max · 0) = 0 := by
      refine .trans (same fun i d hd => max_eq_right ?_) nothing
      exact toInt_le_zero (down i d hd)
    have losses : (start instant amounts).ahead (min · 0) = (start instant amounts).ahead id := by
      refine same fun i d hd => min_eq_left ?_
      exact toInt_le_zero (down i d hd)
    refine ⟨?_, ?_, nofun⟩
    · rw [losses]
      exact range.1
    · rw [gains, Int.add_zero]
      exact high

/-- Partial sums relate as neighbours do. -/
theorem pairwise_scanl {R : Int → Int → Prop} [Trans R R R] {amounts : List Int}
    (h : ∀ d ∈ amounts, ∀ x, R x (x + d)) (x : Int) : (amounts.scanl (· + ·) x).Pairwise R := by
  rw [← List.isChain_iff_pairwise]
  induction amounts generalizing x with
  | nil => simp
  | cons d amounts ih =>
    have later := ih (fun e he => h e (List.mem_cons_of_mem d he)) (x + d)
    have here := h d List.mem_cons_self x
    cases amounts with
    | nil => simpa using here
    | cons e amounts =>
      rw [List.scanl_cons] at later ⊢
      rw [List.scanl_cons]
      exact List.isChain_cons_cons.mpr ⟨here, later⟩

/-- What the clock shows goes one way when all that it is advanced by does. -/
theorem Accounts.pairwise_shown {s s' : SharedClock n} {moves : List (ClockMove n)}
    (accounts : s.Accounts moves s') {R : Int → Int → Prop} [Trans R R R]
    (h : ∀ i, ∀ d ∈ (s.threads i).due, ∀ x, R x (x + d.toInt)) :
    moves.Pairwise fun m m' => R m.shown.toInt m'.shown.toInt := by
  have each : ∀ d ∈ moves.map (·.seconds.toInt), ∀ x, R x (x + d) := by
    intro d hd
    obtain ⟨m, hm, rfl⟩ := List.mem_map.mp hd
    refine h m.thread m.seconds ?_
    rw [← accounts.due]
    exact List.mem_append_left _ (List.mem_map_of_mem (List.mem_filter.mpr ⟨hm, by simp⟩))
  rw [← List.pairwise_map (R := R), accounts.shown]
  exact (pairwise_scanl each _).tail

/-- Amounts of one sign that are not zero never bring the clock back to where it was. -/
theorem Accounts.nodup_shown {s s' : SharedClock n} {moves : List (ClockMove n)}
    (accounts : s.Accounts moves s')
    (signs : (∀ i, ∀ d ∈ (s.threads i).due, 0 ≤ d) ∨ ∀ i, ∀ d ∈ (s.threads i).due, d ≤ 0)
    (nonzero : ∀ i, ∀ d ∈ (s.threads i).due, d ≠ 0) : (moves.map (·.shown)).Nodup := by
  have moves_on {i : Fin n} {d : Timestamp} (hd : d ∈ (s.threads i).due) : d.toInt ≠ 0 :=
    fun zero => nonzero i d hd (Int64.toInt_inj.mp zero)
  rw [List.Nodup, List.pairwise_map]
  obtain up | down := signs
  · refine (accounts.pairwise_shown (R := (· < ·)) fun i d hd x => ?_).imp
      fun h same => absurd (congrArg Int64.toInt same) (Int.ne_of_lt h)
    have := zero_le_toInt (up i d hd)
    have := moves_on hd
    omega
  · refine (accounts.pairwise_shown (R := (· > ·)) fun i d hd x => ?_).imp
      fun h same => absurd (congrArg Int64.toInt same) (Int.ne_of_gt h)
    have := toInt_le_zero (down i d hd)
    have := moves_on hd
    omega

/-- Once all threads are through, each has returned what the clock showed after its moves, and
nothing is ahead. -/
theorem Accounts.finished {s s' : SharedClock n} {moves : List (ClockMove n)}
    (accounts : s.Accounts moves s') (through : s'.Finished) :
    s'.clock.reading.toInt = s.clock.reading.toInt + s.ahead id ∧
      ∀ i, (s'.threads i).returned =
        (s.threads i).results ++ (moves.filter (·.thread = i)).map fun m => .ok m.shown := by
  have nothing : s'.ahead id = 0 := by
    unfold ahead
    refine Finset.sum_eq_zero fun i _ => ?_
    rw [(through i).1]
    rfl
  refine ⟨?_, fun i => ?_⟩
  · have := accounts.total
    omega
  · rw [← accounts.results i, Advancer.results, (through i).2]
    simp

/-- The steps that a thread has still to take. -/
def Advancer.stepsLeft (t : Advancer) : Nat := 2 * t.due.length + t.moving.toList.length

/-- A step of a thread that is not done leaves one step less to take. -/
theorem stepsLeft_step (s : SharedClock n) {i : Fin n}
    (h : ¬ ((s.threads i).due = [] ∧ (s.threads i).moving = none)) :
    ∑ j, Advancer.stepsLeft ((s.step i).2.threads j) < ∑ j, Advancer.stepsLeft (s.threads j) := by
  have fewer {t : Advancer} (ht : Advancer.stepsLeft t < Advancer.stepsLeft (s.threads i)) :
      ∑ j, Advancer.stepsLeft (Function.update s.threads i t j) <
        ∑ j, Advancer.stepsLeft (s.threads j) := by
    have := sum_update Advancer.stepsLeft s.threads i t
    omega
  unfold step
  split
  · next due found seconds returned ht =>
    refine fewer ?_
    rw [ht]
    unfold Advancer.stepsLeft
    split <;> simp
  · next seconds due returned ht =>
    refine fewer ?_
    rw [ht]
    simp [Advancer.stepsLeft]
    omega
  · next ht => simp [ht] at h

/-- Threads can always be brought to their end. -/
theorem exists_finished (s : SharedClock n) : ∃ order, (s.run order).2.Finished := by
  generalize bound : ∑ j, Advancer.stepsLeft (s.threads j) = left
  induction left using Nat.strongRecOn generalizing s with
  | ind left ih =>
    by_cases through : s.Finished
    · exact ⟨[], through⟩
    · obtain ⟨i, hi⟩ := Classical.not_forall.mp through
      obtain ⟨order, done⟩ := ih _ (bound ▸ s.stepsLeft_step hi) _ rfl
      exact ⟨i :: order, done⟩

/-- **No advance is lost.** Any number of threads share a clock and advance it by amounts of one
sign, with a total that leaves the clock in range. Whatever the order of their steps, every advance
of every thread moves the clock by its amount, once and in the order of the thread, and returns what
the clock showed right after its own move; none faults. In the order of the moves the clock goes one
way, and stands still for no amount but zero, so without zeros no two advances of any threads return
the same. Once all threads are through, which they can always be brought to, the clock shows the
start and the total. -/
theorem no_advance_lost (instant : Timestamp) (amounts : Fin n → List Timestamp)
    (signs : (∀ i, ∀ d ∈ amounts i, 0 ≤ d) ∨ ∀ i, ∀ d ∈ amounts i, d ≤ 0)
    (range : Timestamp.InRange (instant.toInt + ∑ i, ((amounts i).map (·.toInt)).sum))
    (order : List (Fin n)) :
    let moves := ((start instant amounts).run order).1
    let last := ((start instant amounts).run order).2
    (∀ i, (moves.filter (·.thread = i)).map (·.seconds) ++ (last.threads i).due = amounts i) ∧
    moves.map (·.shown.toInt) =
      ((moves.map (·.seconds.toInt)).scanl (· + ·) instant.toInt).tail ∧
    (∀ i, (last.threads i).results = (moves.filter (·.thread = i)).map fun m => .ok m.shown) ∧
    ((∀ i, ∀ d ∈ amounts i, 0 ≤ d) → (moves.map (·.shown)).Pairwise (· ≤ ·)) ∧
    ((∀ i, ∀ d ∈ amounts i, d ≤ 0) → (moves.map (·.shown)).Pairwise (· ≥ ·)) ∧
    ((∀ i, ∀ d ∈ amounts i, d ≠ 0) → (moves.map (·.shown)).Nodup) ∧
    (last.Finished →
      last.clock.reading.toInt = instant.toInt + ∑ i, ((amounts i).map (·.toInt)).sum ∧
      ∀ i, (last.threads i).returned = (moves.filter (·.thread = i)).map fun m => .ok m.shown) ∧
    ∃ more, (last.run more).2.Finished := by
  intro moves last
  have accounts : (start instant amounts).Accounts moves last :=
    accounts_run (fits_start signs range) order
  refine ⟨accounts.due, accounts.shown, accounts.results, ?_, ?_, ?_, accounts.finished,
    exists_finished last⟩
  · intro up
    rw [List.pairwise_map]
    refine (accounts.pairwise_shown (R := (· ≤ ·)) fun i d hd x => ?_).imp
      Int64.le_iff_toInt_le.mpr
    have := zero_le_toInt (up i d hd)
    omega
  · intro down
    rw [List.pairwise_map]
    refine (accounts.pairwise_shown (R := (· ≥ ·)) fun i d hd x => ?_).imp
      Int64.le_iff_toInt_le.mpr
    have := toInt_le_zero (down i d hd)
    omega
  · exact accounts.nodup_shown signs

/-- Two threads two steps short of the last timestamp, one of which advances twice. The second moves
the clock between the steps of an advance of the first. -/
theorem no_advance_lost_at_end :
    let amounts : Fin 2 → List Timestamp := ![[3, 4], [5]]
    let order : List (Fin 2) := [0, 1, 0, 0, 1, 0]
    let moves := ((start 9223372036854775795 amounts).run order).1
    let last := ((start 9223372036854775795 amounts).run order).2
    (∀ i, ∀ d ∈ amounts i, 0 ≤ d) ∧ (∀ i, ∀ d ∈ amounts i, d ≠ 0) ∧ last.Finished ∧
      Timestamp.InRange
        ((9223372036854775795 : Timestamp).toInt + ∑ i, ((amounts i).map (·.toInt)).sum) ∧
      (moves.map (·.shown)).Pairwise (· ≤ ·) ∧ (moves.map (·.shown)).Nodup ∧
      last.clock.reading.toInt = 9223372036854775807 ∧
      (last.threads 0).returned = [.ok 9223372036854775798, .ok 9223372036854775807] := by
  intro amounts order moves last
  have up : ∀ i, ∀ d ∈ amounts i, 0 ≤ d := by simp [amounts, Fin.forall_fin_two]
  have nonzero : ∀ i, ∀ d ∈ amounts i, d ≠ 0 := by simp [amounts, Fin.forall_fin_two]
  have through : last.Finished := by decide
  have range : Timestamp.InRange
      ((9223372036854775795 : Timestamp).toInt + ∑ i, ((amounts i).map (·.toInt)).sum) := by decide
  obtain ⟨-, -, -, ascending, -, apart, final, -⟩ :=
    no_advance_lost 9223372036854775795 amounts (.inl up) range order
  obtain ⟨reading, returned⟩ := final through
  refine ⟨up, nonzero, through, range, ascending up, apart nonzero, ?_, ?_⟩
  · rw [reading]
    decide
  · rw [returned]
    decide

end SharedClock

end TaskReplicas
