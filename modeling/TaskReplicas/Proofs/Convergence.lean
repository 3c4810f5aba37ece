import TaskReplicas.Proofs.Survival
import TaskReplicas.Stress.Check

/-!
# When both orders lead to the same replica

Two copies of a replica take one operation each and then what is left of the other. They end up
equal in all but two situations, and both are about a task whose presence only one of the operations
counts on:

* a create meets an update of a task that is missing (`Replica.CreateMeetsUpdate`): the update
  survives, and does something only where the create came first;
* a create meets a delete of a task that has a property (`Replica.CreateMeetsDelete`): the create
  survives, and leaves the property in place only where the delete did not come first.

Neither arises between operations that both fit the replica. The argument follows who gives way: the
operation that wins has to absorb the one that yields (`apply_absorbs_iff`), operations that yield
to each other have to be the same step (`apply_eq_of_yieldsTo`), and operations that both survive
have to commute (`apply_comm_of_survive`).
-/

set_option autoImplicit false

namespace TaskReplicas

namespace Replica

/-- A create and an update of one task, in either order, where the task is missing. -/
def CreateMeetsUpdate (s : Replica) (a b : Operation) : Prop :=
  ∃ t p v i, s.holds t = false ∧
    (a = .create t ∧ b = .update t p v i ∨ a = .update t p v i ∧ b = .create t)

/-- A create and a delete of one task, in either order, where the task has a property. -/
def CreateMeetsDelete (s : Replica) (a b : Operation) : Prop :=
  ∃ t, (∃ p v, s.value? t p = some v) ∧
    (a = .create t ∧ b = .delete t ∨ a = .delete t ∧ b = .create t)

/-- A pair in one of the two situations in which copies of a replica come apart. -/
def Splits (s : Replica) (a b : Operation) : Prop :=
  s.CreateMeetsUpdate a b ∨ s.CreateMeetsDelete a b

/-- A split has no sides. -/
theorem splits_comm (s : Replica) (a b : Operation) : s.Splits a b ↔ s.Splits b a := by
  simp only [Splits, CreateMeetsUpdate, CreateMeetsDelete, or_comm, and_comm]

/-- Where copies come apart, exactly one of the two operations gave way. -/
theorem yieldsTo_of_splits {s : Replica} {a b : Operation} (h : s.Splits a b) :
    a.YieldsTo b ∧ ¬ b.YieldsTo a ∨ b.YieldsTo a ∧ ¬ a.YieldsTo b := by
  rcases h with ⟨t, p, v, i, -, ⟨rfl, rfl⟩ | ⟨rfl, rfl⟩⟩ | ⟨t, -, ⟨rfl, rfl⟩ | ⟨rfl, rfl⟩⟩
  · exact .inl ⟨.createToUpdate t p v i, fun h => by cases h⟩
  · exact .inr ⟨.createToUpdate t p v i, fun h => by cases h⟩
  · exact .inr ⟨.deleteToCreate t, fun h => by cases h⟩
  · exact .inl ⟨.deleteToCreate t, fun h => by cases h⟩

/-- Operations that both fit a replica do not split it. -/
theorem not_splits_of_accepts {s : Replica} {a b : Operation} (ha : s.Accepts a)
    (hb : s.Accepts b) : ¬ s.Splits a b := by
  have filled : ∀ t, (∃ p v, s.value? t p = some v) → s.holds t ≠ false := by
    rintro t ⟨p, v, hv⟩ hf
    rw [holds_eq_isSome, Option.isSome_eq_false_iff, Option.isNone_iff_eq_none] at hf
    simp [value?, hf] at hv
  rintro (⟨t, p, v, i, hm, ⟨rfl, rfl⟩ | ⟨rfl, rfl⟩⟩ | ⟨t, hf, ⟨rfl, rfl⟩ | ⟨rfl, rfl⟩⟩)
  · exact Bool.false_ne_true (hm.symm.trans hb)
  · exact Bool.false_ne_true (hm.symm.trans ha)
  · exact filled t hf ha
  · exact filled t hf hb

/-- The operation that wins absorbs the one that yields, unless the two split the replica. -/
theorem apply_absorbs_iff (s : Replica) {a b : Operation} (h : a.YieldsTo b) :
    (s.apply a).apply b = s.apply b ↔ ¬ s.Splits a b := by
  cases h with
  | create t =>
    have twice : (s.apply (.create t)).apply (.create t) = s.apply (.create t) := by
      show s.run [.create t, .create t] = s.run [.create t]
      rw [run_eq_run_iff s (t := t) (by simp) (by simp)]
      rfl
    simp [twice, Splits, CreateMeetsUpdate, CreateMeetsDelete]
  | delete t =>
    simp [s.apply_delete_absorbs (Operation.task_delete t), Splits, CreateMeetsUpdate,
      CreateMeetsDelete]
  | deleteToCreate t =>
    rw [apply_delete_create_eq_iff]
    simp [Splits, CreateMeetsUpdate, CreateMeetsDelete]
  | createToUpdate t p v i =>
    rw [apply_create_update_eq_iff]
    simp [Splits, CreateMeetsUpdate, CreateMeetsDelete]
  | updateToDelete t p v i =>
    simp [s.apply_delete_absorbs (Operation.task_update t p v i), Splits, CreateMeetsUpdate,
      CreateMeetsDelete]
  | sameValue t p v i j =>
    simp [apply_update_absorbs, Splits, CreateMeetsUpdate, CreateMeetsDelete]
  | earlier t p hv hi =>
    simp [apply_update_absorbs, Splits, CreateMeetsUpdate, CreateMeetsDelete]

/-- Operations that give way to each other do the same. -/
theorem apply_eq_of_yieldsTo (s : Replica) {a b : Operation} (hab : a.YieldsTo b)
    (hba : b.YieldsTo a) : s.apply a = s.apply b := by
  cases hab with
  | create t => rfl
  | delete t => rfl
  | deleteToCreate t => cases hba
  | createToUpdate t p v i => cases hba
  | updateToDelete t p v i => cases hba
  | sameValue t p v i j => exact s.apply_update_timestamp t p v i j
  | earlier t p hv hi =>
    cases hba with
    | sameValue => exact absurd rfl hv
    | earlier _ _ _ hj => exact absurd hj (timestamp_lt_asymm hi)

/-- Operations that both survive may be applied in either order. -/
theorem apply_comm_of_survive (s : Replica) {a b : Operation} (hab : ¬ a.YieldsTo b)
    (hba : ¬ b.YieldsTo a) (ht : ¬ a.Tied b) :
    (s.apply a).apply b = (s.apply b).apply a := by
  by_cases h : a.task = b.task
  -- On one task, every pair but two updates of different properties falls under a rule by which one
  -- of the two yields or the two are tied.
  · cases a with
    | create t =>
      cases b with
      | create u => cases h; exact absurd (.create t) hab
      | delete u => cases h; exact absurd (.deleteToCreate t) hba
      | update u p v i => cases h; exact absurd (.createToUpdate t p v i) hab
    | delete t =>
      cases b with
      | create u => cases h; exact absurd (.deleteToCreate t) hab
      | delete u => cases h; exact absurd (.delete t) hab
      | update u p v i => cases h; exact absurd (.updateToDelete t p v i) hba
    | update t p v i =>
      cases b with
      | create u => cases h; exact absurd (.createToUpdate t p v i) hba
      | delete u => cases h; exact absurd (.updateToDelete t p v i) hab
      | update u q w j =>
        cases h
        by_cases hp : p = q
        · subst hp
          by_cases hv : v = w
          · subst hv
            exact absurd (.sameValue t p v i j) hab
          · have hw : w ≠ v := fun e => hv e.symm
            have hi : ¬ i < j := fun hi => hab (.earlier t p hv hi)
            have hj : ¬ j < i := fun hj => hba (.earlier t p hw hj)
            cases timestamp_eq_of_not_lt hi hj
            exact absurd (.mk t p i hv) ht
        · exact s.apply_update_comm t hp v w i j
  · exact s.apply_comm_of_task_ne h

/-- In a tie both copies end up with the first update. -/
theorem firstThenRest_eq_of_tied (s : Replica) {a b : Operation} (h : a.Tied b) :
    s.firstThenRest a b = s.secondThenRest a b := by
  rw [firstThenRest, secondThenRest, transform_of_tied h]
  cases h with
  | mk t p i hv => exact (s.apply_update_absorbs t p _ _ i i).symm

/-- Copies of a replica come apart in the two situations and in no other. -/
theorem firstThenRest_eq_iff (s : Replica) (a b : Operation) :
    s.firstThenRest a b = s.secondThenRest a b ↔ ¬ s.Splits a b := by
  by_cases ht : a.Tied b
  · have hs : ¬ s.Splits a b := by
      cases ht
      simp [Splits, CreateMeetsUpdate, CreateMeetsDelete]
    exact iff_of_true (s.firstThenRest_eq_of_tied ht) hs
  rw [firstThenRest, secondThenRest, transform_fst, transform_snd ht]
  by_cases hab : a.YieldsTo b <;> by_cases hba : b.YieldsTo a
  · rw [if_pos hab, if_pos hba]
    refine iff_of_true (s.apply_eq_of_yieldsTo hab hba) fun h => ?_
    exact (yieldsTo_of_splits h).elim (fun h => h.2 hba) fun h => h.2 hab
  · rw [if_pos hab, if_neg hba]
    exact s.apply_absorbs_iff hab
  · rw [if_neg hab, if_pos hba, splits_comm]
    exact eq_comm.trans (s.apply_absorbs_iff hba)
  · rw [if_neg hab, if_neg hba]
    refine iff_of_true (s.apply_comm_of_survive hab hba ht) fun h => ?_
    exact (yieldsTo_of_splits h).elim (fun h => hab h.1) fun h => hba h.1

/-- Operations that both fit a replica lead to the same replica in either order. -/
theorem firstThenRest_eq_of_accepts {s : Replica} {a b : Operation} (ha : s.Accepts a)
    (hb : s.Accepts b) : s.firstThenRest a b = s.secondThenRest a b :=
  (s.firstThenRest_eq_iff a b).mpr (not_splits_of_accepts ha hb)

/-- **The exact domain of convergence.** From any replica, any two operations lead to the same
replica in either order, unless a create meets an update of a missing task or a create meets a
delete of a task that has a property; so operations that both fit the replica always do, whichever
of them is given first. -/
theorem converges_iff_not_split (s : Replica) (a b : Operation) :
    (s.firstThenRest a b = s.secondThenRest a b ↔
      ¬ s.CreateMeetsUpdate a b ∧ ¬ s.CreateMeetsDelete a b) ∧
    (s.Accepts a → s.Accepts b →
      s.firstThenRest a b = s.secondThenRest a b ∧ s.firstThenRest b a = s.secondThenRest b a) := by
  refine ⟨?_, fun ha hb => ⟨?_, ?_⟩⟩
  · rw [firstThenRest_eq_iff, Splits, not_or]
  · exact firstThenRest_eq_of_accepts ha hb
  · exact firstThenRest_eq_of_accepts hb ha

/-- Two updates of one property that tie at the least of all timestamps fit, and converge. -/
theorem converges_tied_at_minValue :
    let s := empty.apply (.create "abc")
    let a := Operation.update "abc" "due" (some "monday") Int64.minValue
    let b := Operation.update "abc" "due" none Int64.minValue
    s.Accepts a ∧ s.Accepts b ∧ s.firstThenRest a b = s.secondThenRest a b ∧
      s.firstThenRest b a = s.secondThenRest b a := by
  intro s a b
  have ha : s.Accepts a := by decide
  have hb : s.Accepts b := by decide
  exact ⟨ha, hb, (converges_iff_not_split s a b).2 ha hb⟩

end Replica

end TaskReplicas
