import TaskReplicas.Proofs.CleanRuns

/-!
# What a round counts

The counts of a round say what they are said to say, from any replica and for any pairs. `Tallies`
ties each count to the pairs that it is to count. One pair is tallied by its own outcome
(`tallies_checkPair`); tallies add up along a list (`Outcome.Tallies.add`), and so a round is
tallied by its outcome (`tallies_checkRound`). The divergences are those pairs that split the
replica, and these and no others are warned of, in their order (`warnings_checkRound`).
-/

set_option autoImplicit false

namespace TaskReplicas

/-! ## Counting one pair -/

/-- Copies of a replica differ after the pairs that split it. -/
theorem Replica.diverges_iff (s : Replica) (a b : Operation) :
    s.diverges a b = true ↔ s.Splits a b := by
  rw [diverges, decide_eq_true_iff, ne_eq, firstThenRest_eq_iff,
    Classical.not_not]

instance (s : Replica) (a b : Operation) : Decidable (s.Splits a b) :=
  decidable_of_iff _ (s.diverges_iff a b)

/-- Both of two operations survive when they commute; else at most one of them does. -/
theorem survivors_transform (a b : Operation) :
    survivors (transform a b) =
      2 * (commutes a b).toNat + (decide (survivors (transform a b) = 1)).toNat := by
  unfold commutes transform
  cases (resolve a b).1 <;> rfl

/-- Of a pair that commutes both operations survive, and of any other not both. -/
theorem survivors_transform_le (a b : Operation) :
    survivors (transform a b) ≤ 1 + (commutes a b).toNat := by
  unfold commutes transform
  cases (resolve a b).1 <;> simp [survivors, Resolution.outputs]

/-- Transforming is logged below the level of a warning. -/
theorem level_transformEvents (a b : Operation) :
    ∀ e ∈ transformEvents a b, e.level ≠ .warn := by
  rw [transformEvents]
  cases (resolve a b).1 <;> simp [Resolution.event, Event.level]

/-- The warnings among some events. -/
def warnings (events : List Event) : List Event := events.filter fun e => e.level = .warn

/-- A pair is warned of once if it splits the replica, and else never. -/
theorem warnings_checkPair (start : Replica) (a b : Operation) :
    warnings (checkPair start (a, b)).2 =
      if start.Splits a b then [.diverged a b] else [] := by
  have silent : (transformEvents a b).filter (fun e => e.level = .warn) = [] :=
    List.filter_eq_nil_iff.mpr fun e he => by simpa using level_transformEvents a b e he
  rw [warnings, checkPair, List.filter_append, silent, List.nil_append]
  by_cases split : start.Splits a b
  · rw [if_pos split, if_pos ((start.diverges_iff a b).mpr split)]
    rfl
  · rw [if_neg split, if_neg fun h => split ((start.diverges_iff a b).mp h)]
    rfl

/-! ## Counting a round -/

/-- An outcome that counts some pairs rightly. -/
structure Outcome.Tallies (start : Replica) (pairs : List (Operation × Operation)) (o : Outcome) :
    Prop where
  all : o.pairs = pairs.length
  /-- Each operation of each pair survived or did not. -/
  operations : o.kept + o.suppressed = 2 * pairs.length
  passedThrough : o.passedThrough = pairs.countP fun p => commutes p.1 p.2
  /-- Both operations survive of the pairs that pass through, and one of some others. -/
  kept : o.kept = 2 * (pairs.countP fun p => commutes p.1 p.2) +
    pairs.countP fun p => survivors (transform p.1 p.2) = 1
  /-- Of the pairs that do not pass through at most one operation survives. -/
  kept_le : o.kept ≤ pairs.length + pairs.countP fun p => commutes p.1 p.2
  divergences : o.divergences = pairs.countP fun p => start.Splits p.1 p.2

namespace Outcome.Tallies

variable {start : Replica}

/-- Outcomes that count their pairs count them together. -/
theorem add {pairs pairs' : List (Operation × Operation)} {o o' : Outcome}
    (h : o.Tallies start pairs) (h' : o'.Tallies start pairs') :
    (o + o').Tallies start (pairs ++ pairs') := by
  constructor
  · show o.pairs + o'.pairs = _
    rw [h.all, h'.all, List.length_append]
  · show o.kept + o'.kept + (o.suppressed + o'.suppressed) = _
    have := h.operations
    have := h'.operations
    rw [List.length_append]
    omega
  · show o.passedThrough + o'.passedThrough = _
    rw [h.passedThrough, h'.passedThrough, List.countP_append]
  · show o.kept + o'.kept = _
    rw [h.kept, h'.kept, List.countP_append, List.countP_append]
    omega
  · show o.kept + o'.kept ≤ _
    have := h.kept_le
    have := h'.kept_le
    rw [List.countP_append, List.length_append]
    omega
  · show o.divergences + o'.divergences = _
    rw [h.divergences, h'.divergences, List.countP_append]

end Outcome.Tallies

/-- The outcome of a pair counts that pair. -/
theorem tallies_checkPair (start : Replica) (a b : Operation) :
    (checkPair start (a, b)).1.Tallies start [(a, b)] := by
  have counted (p : Operation × Operation → Bool) : [(a, b)].countP p = (p (a, b)).toNat := by
    cases h : p (a, b) <;> simp [h]
  constructor
  · rfl
  · show survivors (transform a b) + (2 - survivors (transform a b)) = 2 * 1
    have := survivors_le (transform a b)
    omega
  · rw [counted]
    rfl
  · rw [counted, counted]
    exact survivors_transform a b
  · rw [counted]
    exact survivors_transform_le a b
  · rw [counted]
    show (start.diverges a b).toNat = _
    rw [Bool.eq_iff_iff.mpr ((start.diverges_iff a b).trans decide_eq_true_iff.symm)]

/-- A round counts its first pair and the others. -/
theorem checkRound_cons (start : Replica) (p : Operation × Operation)
    (pairs : List (Operation × Operation)) :
    (checkRound start (p :: pairs)).1 = (checkPair start p).1 + (checkRound start pairs).1 := by
  rw [checkRound, List.map_cons, List.map_cons, Outcome.total_cons, Outcome.add_comm]
  rfl

/-- The outcome of a round counts its pairs. -/
theorem tallies_checkRound (start : Replica) (pairs : List (Operation × Operation)) :
    (checkRound start pairs).1.Tallies start pairs := by
  induction pairs with
  | nil => exact ⟨rfl, rfl, rfl, rfl, Nat.le_refl 0, rfl⟩
  | cons p pairs ih =>
    rw [checkRound_cons]
    exact (tallies_checkPair start p.1 p.2).add ih

/-- The warnings of a round are one for each pair that splits the replica, in the order of the
pairs. -/
theorem warnings_checkRound (start : Replica) (pairs : List (Operation × Operation)) :
    warnings (checkRound start pairs).2 =
      (pairs.filter fun p => start.Splits p.1 p.2).map fun p => .diverged p.1 p.2 := by
  induction pairs with
  | nil => rfl
  | cons p pairs ih =>
    have first := warnings_checkPair start p.1 p.2
    have both : warnings (checkRound start (p :: pairs)).2 =
        warnings (checkPair start p).2 ++ warnings (checkRound start pairs).2 :=
      List.filter_append ..
    rw [both, first, ih]
    by_cases split : start.Splits p.1 p.2
    · rw [if_pos split, List.filter_cons_of_pos (by simpa using split)]
      rfl
    · rw [if_neg split, List.filter_cons_of_neg (by simpa using split)]
      rfl

/-- **A round counts honestly.** From any replica, and whatever the pairs are, every pair is counted
and each of its operations either survived or did not; the pairs that passed through are those that
commute; both operations of these survived, and one of each pair that has a lone survivor; the
divergences are exactly the pairs that split the replica, and the warnings are the labels of these,
in their order. Further pairs add their own counts: every pair is tried on the replica as it was. -/
theorem checkRound_counts (start : Replica) (pairs : List (Operation × Operation)) :
    let o := (checkRound start pairs).1
    o.pairs = pairs.length ∧ o.kept + o.suppressed = 2 * o.pairs ∧
    o.passedThrough = pairs.countP (fun p => commutes p.1 p.2) ∧
    2 * o.passedThrough ≤ o.kept ∧ o.kept ≤ o.pairs + o.passedThrough ∧
    o.kept - 2 * o.passedThrough =
      pairs.countP (fun p => survivors (transform p.1 p.2) = 1) ∧
    o.divergences = pairs.countP (fun p => start.Splits p.1 p.2) ∧
    (warnings (checkRound start pairs).2).map (fun e => (e.message, e.fields)) =
      (pairs.filter fun p => start.Splits p.1 p.2).map
        (fun p => ("replicas diverged after transform", [("pair", pairLabel p.1 p.2)])) ∧
    ∀ more, (checkRound start (pairs ++ more)).1 = o + (checkRound start more).1 ∧
      (checkRound start (pairs ++ more)).2 =
        (checkRound start pairs).2 ++ (checkRound start more).2 := by
  intro o
  have tally : o.Tallies start pairs := tallies_checkRound start pairs
  have passed := tally.passedThrough
  have kept := tally.kept
  have kept_le := tally.kept_le
  rw [← passed] at kept kept_le
  refine ⟨tally.all, ?_, passed, by omega, ?_, by omega, tally.divergences, ?_,
    fun more => ⟨?_, ?_⟩⟩
  · rw [tally.all, tally.operations]
  · rw [tally.all]
    exact kept_le
  · rw [warnings_checkRound, List.map_map]
    rfl
  · exact checkRound_append start pairs more
  · simp only [checkRound, List.map_append, List.flatMap_append]

end TaskReplicas
