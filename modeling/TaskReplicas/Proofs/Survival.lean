import TaskReplicas.Proofs.Absorption
import TaskReplicas.Proofs.Rulings
import TaskReplicas.Transform.Basic

/-!
# Which operations survive a transform

`Operation.YieldsTo` says, rule by rule, when an operation gives way to another one that was made
without sight of it, and `Operation.Tied` when neither does and only their order can decide. The
outputs of a transform follow from the two: `transform_fst` and `transform_snd`. The order of the
arguments matters in a tie and nowhere else (`transform_swap`).
-/

set_option autoImplicit false

namespace TaskReplicas

/-- When an operation gives way to another one, whatever the order in which they are given. -/
inductive Operation.YieldsTo : Operation → Operation → Prop
  /-- One create of a task is as good as two. -/
  | create (t : String) : YieldsTo (.create t) (.create t)
  /-- One delete of a task is as good as two. -/
  | delete (t : String) : YieldsTo (.delete t) (.delete t)
  /-- A delete gives way to a create. -/
  | deleteToCreate (t : String) : YieldsTo (.delete t) (.create t)
  /-- A create gives way to an update. -/
  | createToUpdate (t p : String) (v : Option String) (i : Timestamp) :
    YieldsTo (.create t) (.update t p v i)
  /-- An update gives way to a delete. -/
  | updateToDelete (t p : String) (v : Option String) (i : Timestamp) :
    YieldsTo (.update t p v i) (.delete t)
  /-- One of two updates that give a property the same value is as good as both. -/
  | sameValue (t p : String) (v : Option String) (i j : Timestamp) :
    YieldsTo (.update t p v i) (.update t p v j)
  /-- An update gives way to a later one that gives the property another value. -/
  | earlier (t p : String) {v w : Option String} {i j : Timestamp} (hv : v ≠ w) (hi : i < j) :
    YieldsTo (.update t p v i) (.update t p w j)

/-- Two updates made at the same time that give one property different values. -/
inductive Operation.Tied : Operation → Operation → Prop
  | mk (t p : String) {v w : Option String} (i : Timestamp) (hv : v ≠ w) :
    Tied (.update t p v i) (.update t p w i)

/-- An operation gives way only to one on its own task. -/
theorem Operation.YieldsTo.task_eq {a b : Operation} (h : a.YieldsTo b) : a.task = b.task := by
  cases h <;> rfl

/-- Operations tie only on one task. -/
theorem Operation.Tied.task_eq {a b : Operation} (h : a.Tied b) : a.task = b.task := by
  cases h
  rfl

/-- Operations on two tasks both survive. -/
theorem transform_of_task_ne {a b : Operation} (h : a.task ≠ b.task) :
    transform a b = (some a, some b) := by
  rw [transform, resolve, if_neg h]
  rfl

/-- Operations on one task are decided by the rules for one task. -/
theorem transform_of_task_eq {a b : Operation} (h : a.task = b.task) :
    transform a b = (resolveOnTask a b).1.outputs a b := by
  rw [transform, resolve, if_pos h]

/-- What comes out of a transform first is the first operation or nothing. -/
theorem transform_fst_eq_none_or (a b : Operation) :
    (transform a b).1 = none ∨ (transform a b).1 = some a := by
  rw [transform]
  cases (resolve a b).1 <;> simp [Resolution.outputs]

/-- What comes out of a transform second is the second operation or nothing. -/
theorem transform_snd_eq_none_or (a b : Operation) :
    (transform a b).2 = none ∨ (transform a b).2 = some b := by
  rw [transform]
  cases (resolve a b).1 <;> simp [Resolution.outputs]

/-- An operation that gives way is gone. -/
theorem transform_fst_of_yieldsTo {a b : Operation} (h : a.YieldsTo b) :
    (transform a b).1 = none := by
  rw [transform_of_task_eq h.task_eq]
  cases h with
  | create t => rfl
  | delete t => rfl
  | deleteToCreate t => rfl
  | createToUpdate t p v i => rfl
  | updateToDelete t p v i => rfl
  | sameValue t p v i j => simp [resolveOnTask, resolveValues, Resolution.outputs]
  | earlier t p hv hi => simp [resolveOnTask, resolveValues, Resolution.outputs, hv, hi]

/-- An operation that is gone had to give way. -/
theorem yieldsTo_of_transform_fst {a b : Operation} (h : (transform a b).1 = none) :
    a.YieldsTo b := by
  unfold transform at h
  have ruling := ruling_resolve a b
  generalize resolve a b = decided at h ruling
  obtain ⟨kept, rule⟩ := decided
  cases ruling with
  | differentTasks => cases h
  | creates t => exact .create t
  | deletes t => exact .delete t
  | createDelete => cases h
  | deleteCreate t => exact .deleteToCreate t
  | createUpdate t p v i => exact .createToUpdate t p v i
  | updateCreate => cases h
  | deleteUpdate => cases h
  | updateDelete t p v i => exact .updateToDelete t p v i
  | differentProperties => cases h
  | sameValue t p v i j => exact .sameValue t p v i j
  | laterSecond t p hv hi => exact .earlier t p hv hi
  | laterFirst => cases h
  | tie => cases h

/-- Nothing is left of the first operation just in case it gives way. -/
theorem transform_fst_eq_none_iff (a b : Operation) :
    (transform a b).1 = none ↔ a.YieldsTo b :=
  ⟨yieldsTo_of_transform_fst, transform_fst_of_yieldsTo⟩

instance (a b : Operation) : Decidable (a.YieldsTo b) :=
  decidable_of_iff _ (transform_fst_eq_none_iff a b)

/-- What is left of the first of two operations. -/
theorem transform_fst (a b : Operation) :
    (transform a b).1 = if a.YieldsTo b then none else some a := by
  split
  · next h => exact transform_fst_of_yieldsTo h
  · next h =>
    refine (transform_fst_eq_none_or a b).resolve_left fun hn => h ?_
    exact yieldsTo_of_transform_fst hn

/-- In a tie the first operation survives. -/
theorem transform_of_tied {a b : Operation} (h : a.Tied b) : transform a b = (some a, none) := by
  rw [transform_of_task_eq h.task_eq]
  cases h with
  | mk t p i hv =>
    have hi : ¬ i < i := fun h => timestamp_lt_asymm h h
    simp [resolveOnTask, resolveValues, Resolution.outputs, hv, hi]

/-- Outside a tie, operations that are given in the other order come out in the other order. -/
theorem transform_swap {a b : Operation} (h : ¬ a.Tied b) :
    transform b a = (transform a b).swap := by
  by_cases ht : a.task = b.task
  · rw [transform_of_task_eq ht, transform_of_task_eq ht.symm]
    cases a with
    | create t => cases b <;> rfl
    | delete t => cases b <;> rfl
    | update t p v i =>
      cases b with
      | create u => rfl
      | delete u => rfl
      | update u q w j =>
        cases ht
        by_cases hp : p = q
        · subst hp
          by_cases hv : v = w
          · simp [resolveOnTask, resolveValues, Resolution.outputs, hv]
          · have hv' : w ≠ v := fun e => hv e.symm
            by_cases hi : i < j
            · simp [resolveOnTask, resolveValues, Resolution.outputs, hv, hv', hi,
                timestamp_lt_asymm hi]
            · by_cases hj : j < i
              · simp [resolveOnTask, resolveValues, Resolution.outputs, hv, hv', hi, hj]
              · cases timestamp_eq_of_not_lt hi hj
                exact absurd (.mk t p i hv) h
        · have hp' : q ≠ p := fun e => hp e.symm
          simp [resolveOnTask, Resolution.outputs, hp, hp']
  · have ht' : b.task ≠ a.task := fun e => ht e.symm
    rw [transform_of_task_ne ht, transform_of_task_ne ht']
    rfl

/-- What is left of the second of two operations. -/
theorem transform_snd {a b : Operation} (h : ¬ a.Tied b) :
    (transform a b).2 = if b.YieldsTo a then none else some b := by
  rw [← transform_fst b a, transform_swap h]
  rfl

/-- A first operation that comes out of a transform did not give way. -/
theorem eq_and_not_yieldsTo_of_transform_fst {a b op : Operation}
    (h : (transform a b).1 = some op) : a = op ∧ ¬ a.YieldsTo b := by
  rw [transform_fst] at h
  by_cases hy : a.YieldsTo b
  · rw [if_pos hy] at h
    cases h
  · rw [if_neg hy, Option.some.injEq] at h
    exact ⟨h, hy⟩

/-- A second operation that comes out of a transform did not give way. -/
theorem eq_and_not_yieldsTo_of_transform_snd {a b op : Operation}
    (h : (transform a b).2 = some op) : b = op ∧ ¬ b.YieldsTo a := by
  by_cases ht : a.Tied b
  · rw [transform_of_tied ht] at h
    cases h
  · refine eq_and_not_yieldsTo_of_transform_fst ?_
    rw [transform_swap ht]
    exact h

end TaskReplicas
